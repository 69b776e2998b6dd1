import Mathlib.Data.Nat.GCD.Basic
import ModuleDatabase.Base.Ring
import ModuleDatabase.Log.OperationLog

namespace ModuleDatabase
namespace Log

/-!
# The log shows the last operations

A log that forgets nothing is a list of operations, in which a failure or an end is noted at
its operation.  What the ring prints is what is printed of the last entries of this list.

A cookie comes again after `5 * 2 ^ 24` operations: that often the generation and the slot
are the same.  Until then it names its operation, or none.
-/

/-- The log that forgets nothing, the oldest operation first. -/
abbrev History := List Operation

section Plain

variable (formatted : Int → String)

def plainDump (now : Int) (verbose : Bool) (history : History) : Output :=
  "  Most recently executed operations:" ::
    if history = [] then ["    <none>"]
    else ((history.reverse.take MAX_RECENT_OPERATIONS).zipIdx).map fun entry =>
      OperationLog.dumpLine formatted now verbose entry.1 entry.2

def plainDescribe (now : Int) (history : History) : Output :=
  match history.getLast? with
  | some operation => if !operation.mFinished then [operation.describe now false] else []
  | none => []

def plainBegin (now : Int) (kind : String) (sql : Option String)
    (bindArgs : Option (List Object)) : Operation :=
  { mStartTime := now
    mKind := kind
    mSql := sql
    mBindArgs := bindArgs.map fun bindArgs => bindArgs.map Object.withoutBytes }

def plain : Machine History Action Output where
  perform action history :=
    match action with
    | .begins now kind sql bindArgs => ([], history ++ [plainBegin now kind sql bindArgs])
    | .fails operation message =>
        ([], history.modify operation fun entry => { entry with mException := some message })
    | .ends operation now =>
        ([], history.modify operation fun entry =>
          { entry with mEndTime := now, mFinished := true })
    | .describesCurrent now => (plainDescribe now history, history)
    | .dumps now verbose => (plainDump formatted now verbose history, history)

end Plain

/-- A cookie is not used any more when it comes again. -/
def Young (history : History) : Action → Prop
  | .fails operation _ => history.length ≤ operation + 5 * 2 ^ 24
  | .ends operation _ => history.length ≤ operation + 5 * 2 ^ 24
  | _ => True

/-! ## Cookies -/

/-- The cookie of an operation, by its number. -/
def cookieOf (operation : Nat) : BitVec 32 :=
  BitVec.ofNat 32 operation <<< COOKIE_GENERATION_SHIFT |||
    BitVec.ofNat 32 ((operation + 1) % MAX_RECENT_OPERATIONS)

theorem toNat_cookieOf (operation : Nat) :
    (cookieOf operation).toNat = operation % 2 ^ 24 * 2 ^ 8 + (operation + 1) % 20 := by
  have slot : (operation + 1) % 20 < 20 := Nat.mod_lt _ (by decide)
  have low : (BitVec.ofNat 32 ((operation + 1) % 20)).toNat = (operation + 1) % 20 := by
    rw [BitVec.toNat_ofNat, Nat.mod_eq_of_lt]
    omega
  have high : (BitVec.ofNat 32 operation <<< 8).toNat = (operation % 2 ^ 24) <<< 8 := by
    rw [BitVec.toNat_shiftLeft, BitVec.toNat_ofNat, Nat.shiftLeft_eq, Nat.shiftLeft_eq]
    omega
  rw [cookieOf, COOKIE_GENERATION_SHIFT, MAX_RECENT_OPERATIONS, BitVec.toNat_or, low, high,
    ← Nat.shiftLeft_add_eq_or_of_lt (by omega), Nat.shiftLeft_eq]

theorem cookieOf_index (operation : Nat) :
    (cookieOf operation &&& COOKIE_INDEX_MASK).toNat = (operation + 1) % MAX_RECENT_OPERATIONS := by
  have mask : COOKIE_INDEX_MASK.toNat = 2 ^ 8 - 1 := rfl
  rw [BitVec.toNat_and, mask, Nat.and_two_pow_sub_one_eq_mod, toNat_cookieOf,
    MAX_RECENT_OPERATIONS]
  omega

/-- The generation and the slot are the same together that seldom. -/
theorem both_dvd {distance : Nat} (slots : distance % 20 = 0)
    (generations : distance % 2 ^ 24 = 0) : 5 * 2 ^ 24 ∣ distance := by
  have coprime : Nat.Coprime 5 (2 ^ 24) := Nat.Coprime.pow_right 24 (by decide)
  refine coprime.mul_dvd_of_dvd_of_dvd ?_ (Nat.dvd_of_mod_eq_zero generations)
  exact Nat.dvd_trans ⟨4, rfl⟩ (Nat.dvd_of_mod_eq_zero slots)

theorem parts_eq {high high' low low' : Nat} (small : low < 2 ^ 8) (small' : low' < 2 ^ 8)
    (same : high * 2 ^ 8 + low = high' * 2 ^ 8 + low') : high = high' ∧ low = low' := by
  omega

theorem cookieOf_ne {first second : Nat} (before : first < second)
    (near : second < first + 5 * 2 ^ 24) : cookieOf first ≠ cookieOf second := by
  intro same
  have numbers := congrArg BitVec.toNat same
  rw [toNat_cookieOf, toNat_cookieOf] at numbers
  have small : ∀ n, n % 20 < 2 ^ 8 := fun n => Nat.lt_trans (Nat.mod_lt n (by decide)) (by decide)
  obtain ⟨generations, slots⟩ := parts_eq (small _) (small _) numbers
  have slotDistance := Nat.sub_mod_eq_zero_of_mod_eq slots.symm
  rw [Nat.add_sub_add_right] at slotDistance
  have large := Nat.le_of_dvd (Nat.sub_pos_of_lt before)
    (both_dvd slotDistance (Nat.sub_mod_eq_zero_of_mod_eq generations.symm))
  exact Nat.not_lt_of_le large (Nat.sub_lt_left_of_lt_add (Nat.le_of_lt before) near)

/-! ## The ring and the list -/

/-- Two operations that are described alike.  A slot that is used again may keep an empty list
of arguments, and the end time of an operation that is still running means nothing. -/
structure Alike (entry held : Operation) : Prop where
  mStartTime : held.mStartTime = entry.mStartTime
  mEndTime : entry.mFinished = true → held.mEndTime = entry.mEndTime
  mKind : held.mKind = entry.mKind
  mSql : held.mSql = entry.mSql
  mBindArgs : held.mBindArgs.getD [] = entry.mBindArgs.getD []
  mFinished : held.mFinished = entry.mFinished
  mException : held.mException = entry.mException

theorem Alike.describe {entry held : Operation} (alike : Alike entry held) (now : Int)
    (verbose : Bool) : held.describe now verbose = entry.describe now verbose := by
  have status : held.getStatus = entry.getStatus := by
    rw [Operation.getStatus, Operation.getStatus, alike.mFinished, alike.mException]
  have time : held.describeTime now = entry.describeTime now := by
    rw [Operation.describeTime, Operation.describeTime, alike.mFinished, alike.mStartTime]
    cases finished : entry.mFinished with
    | true => rw [alike.mEndTime finished]
    | false => rfl
  rw [Operation.describe, Operation.describe, alike.mKind, time, status, alike.mSql,
    alike.mBindArgs, alike.mException]

structure Mirrors (history : History) (use : Use) : Prop where
  generation : use.log.mGeneration = BitVec.ofNat 32 history.length
  index : use.log.mIndex = history.length % MAX_RECENT_OPERATIONS
  cookies : use.cookies = (List.range history.length).map cookieOf
  ring : RingHolds MAX_RECENT_OPERATIONS use.log.mOperations history.length fun operation held =>
    held.mCookie = cookieOf operation ∧ ∃ entry, history[operation]? = some entry ∧ Alike entry held

theorem begun_alike (slot : Option Operation) (now : Int) (kind : String) (sql : Option String)
    (bindArgs : Option (List Object)) {cookie : BitVec 32} :
    Alike (plainBegin now kind sql bindArgs) { Operation.reuse slot with
      mStartTime := now
      mKind := kind
      mSql := sql
      mBindArgs := match bindArgs with
        | some bindArgs => some (bindArgs.map Object.withoutBytes)
        | none => (Operation.reuse slot).mBindArgs
      mCookie := cookie } where
  mStartTime := rfl
  mEndTime := nofun
  mKind := rfl
  mSql := rfl
  mBindArgs := by
    cases bindArgs with
    | some bindArgs => rfl
    | none =>
        cases slot with
        | none => rfl
        | some operation =>
            obtain ⟨_, _, _, _, kept, _, _, _⟩ := operation
            cases kept with
            | none => rfl
            | some kept => rfl
  mFinished := by
    cases slot with
    | none => rfl
    | some operation => rfl
  mException := by
    cases slot with
    | none => rfl
    | some operation => rfl

section Steps

variable {history : History} {use : Use}

theorem mirrors_initially : Mirrors [] ⟨{}, []⟩ where
  generation := rfl
  index := rfl
  cookies := rfl
  ring := .initially _ _

theorem Mirrors.begins (mirrors : Mirrors history use) (now : Int) (kind : String)
    (sql : Option String) (bindArgs : Option (List Object)) :
    Mirrors (history ++ [plainBegin now kind sql bindArgs])
      ⟨(use.log.beginOperation now kind sql bindArgs).2,
        use.cookies ++ [(use.log.beginOperation now kind sql bindArgs).1]⟩ := by
  have next : (use.log.mIndex + 1) % MAX_RECENT_OPERATIONS =
      (history.length + 1) % MAX_RECENT_OPERATIONS := by
    rw [mirrors.index, Nat.mod_add_mod]
  have named : use.log.mGeneration <<< COOKIE_GENERATION_SHIFT |||
      BitVec.ofNat 32 ((history.length + 1) % MAX_RECENT_OPERATIONS) = cookieOf history.length := by
    rw [mirrors.generation]
    rfl
  have cookie : (use.log.beginOperation now kind sql bindArgs).1 = cookieOf history.length := by
    rw [← named, ← next]
    rfl
  refine ⟨?_, ?_, ?_, ?_⟩
  · rw [List.length_append, List.length_singleton, BitVec.ofNat_add, ← mirrors.generation]
    rfl
  · rw [List.length_append, List.length_singleton, ← next]
    rfl
  · rw [List.length_append, List.length_singleton, List.range_succ, List.map_append,
      ← mirrors.cookies, cookie]
    rfl
  · rw [List.length_append, List.length_singleton]
    change RingHolds _ (Function.update use.log.mOperations
      ((use.log.mIndex + 1) % MAX_RECENT_OPERATIONS) _) _ _
    rw [next]
    refine mirrors.ring.push (fun operation held before => ?_)
      ⟨named, plainBegin now kind sql bindArgs, ?_, ?_⟩
    · rintro ⟨same, entry, found, alike⟩
      exact ⟨same, entry, (List.getElem?_append_left before).trans found, alike⟩
    · exact List.getElem?_concat_length
    · exact begun_alike _ now kind sql bindArgs

/-- The slot of an operation that has lost it has the operation of another cookie. -/
theorem Mirrors.lost (mirrors : Mirrors history use) {operation : Nat}
    (old : operation + MAX_RECENT_OPERATIONS < history.length)
    (young : history.length ≤ operation + 5 * 2 ^ 24) :
    (use.log.getOperationLocked (cookieOf operation)).2 = none := by
  rw [MAX_RECENT_OPERATIONS] at old
  have turns := Nat.div_add_mod (history.length - 1 - operation) 20
  have left := Nat.mod_lt (history.length - 1 - operation) (by decide : 20 > 0)
  generalize (history.length - 1 - operation) / 20 = turn at turns
  generalize (history.length - 1 - operation) % 20 = rest at turns left
  obtain ⟨held, read, cookie, -⟩ := mirrors.ring.recent (operation + 20 * turn) (by omega)
    (by rw [MAX_RECENT_OPERATIONS]; omega)
  have slot : (operation + 20 * turn + 1) % MAX_RECENT_OPERATIONS =
      (operation + 1) % MAX_RECENT_OPERATIONS := by
    rw [MAX_RECENT_OPERATIONS]
    omega
  rw [slot] at read
  rw [OperationLog.getOperationLocked]
  dsimp only
  rw [cookieOf_index, read, Option.filter_some_neg]
  rw [cookie]
  exact decide_eq_false (cookieOf_ne (by omega) (by omega)).symm

theorem Mirrors.found (mirrors : Mirrors history use) {operation : Nat}
    (below : operation < history.length)
    (recent : history.length ≤ operation + MAX_RECENT_OPERATIONS) :
    ∃ entry held, use.log.getOperationLocked (cookieOf operation) =
        ((operation + 1) % MAX_RECENT_OPERATIONS, some held) ∧
      history[operation]? = some entry ∧ Alike entry held ∧ held.mCookie = cookieOf operation := by
  obtain ⟨held, read, cookie, entry, there, alike⟩ := mirrors.ring.recent operation below recent
  refine ⟨entry, held, ?_, there, alike, cookie⟩
  rw [OperationLog.getOperationLocked, cookieOf_index, read, Option.filter_some_pos]
  exact decide_eq_true cookie

/-- A change that a cookie asks for is made in the ring as far as the ring has the operation. -/
theorem Mirrors.changes (mirrors : Mirrors history use) {operation : Nat}
    {change : Operation → Operation} (below : operation < history.length)
    (young : history.length ≤ operation + 5 * 2 ^ 24)
    (alikes : ∀ entry held, Alike entry held → Alike (change entry) (change held))
    (cookies : ∀ held, (change held).mCookie = held.mCookie) :
    Mirrors (history.modify operation change)
      { use with log := use.log.changeOperation (cookieOf operation) change } := by
  have apart : ∀ other entry, other ≠ operation → history[other]? = some entry →
      (history.modify operation change)[other]? = some entry := by
    intro other entry different there
    rw [List.getElem?_modify_ne _ _ different.symm]
    exact there
  rcases Nat.lt_or_ge (operation + MAX_RECENT_OPERATIONS) history.length with old | recent
  · have lost := mirrors.lost old young
    have same : use.log.changeOperation (cookieOf operation) change = use.log := by
      rw [OperationLog.changeOperation]
      generalize use.log.getOperationLocked (cookieOf operation) = found at lost
      obtain ⟨index, none | held⟩ := found
      · rfl
      · cases lost
    rw [same]
    refine ⟨?_, ?_, ?_, ?_⟩
    · rw [List.length_modify]
      exact mirrors.generation
    · rw [List.length_modify]
      exact mirrors.index
    · rw [List.length_modify]
      exact mirrors.cookies
    · rw [List.length_modify]
      refine mirrors.ring.mono fun other held _ young' => ?_
      rintro ⟨cookie, entry, there, alike⟩
      exact ⟨cookie, entry, apart other entry (by omega) there, alike⟩
  · obtain ⟨entry, held, found, there, alike, cookie⟩ := mirrors.found below recent
    rw [OperationLog.changeOperation, found]
    refine ⟨?_, ?_, ?_, ?_⟩
    · rw [List.length_modify]
      exact mirrors.generation
    · rw [List.length_modify]
      exact mirrors.index
    · rw [List.length_modify]
      exact mirrors.cookies
    · rw [List.length_modify]
      refine mirrors.ring.write below recent (fun other value different => ?_)
        ⟨(cookies held).trans cookie, change entry, ?_, alikes entry held alike⟩
      · rintro ⟨cookie', entry', there', alike'⟩
        exact ⟨cookie', entry', apart other entry' different there', alike'⟩
      · rw [List.getElem?_modify_eq, there]
        rfl

theorem Mirrors.cookie (mirrors : Mirrors history use) (operation : Nat) :
    use.cookies[operation]? =
      if operation < history.length then some (cookieOf operation) else none := by
  rw [mirrors.cookies, List.getElem?_map]
  split
  · rw [List.getElem?_range ‹_›]
    rfl
  · rw [List.getElem?_eq_none (by rw [List.length_range]; omega)]
    rfl

/-- The slot of the `n`-th operation from the last. -/
theorem Mirrors.slot (mirrors : Mirrors history use) {n : Nat} (inside : n < history.length)
    (small : n < MAX_RECENT_OPERATIONS) :
    ∃ entry held, use.log.mOperations ((history.length - n) % MAX_RECENT_OPERATIONS) = some held ∧
      history[history.length - 1 - n]? = some entry ∧ Alike entry held := by
  obtain ⟨held, read, -, entry, there, alike⟩ :=
    mirrors.ring.recent (history.length - 1 - n) (by omega) (by omega)
  have slot : history.length - 1 - n + 1 = history.length - n := by omega
  rw [slot] at read
  exact ⟨entry, held, read, there, alike⟩

theorem Mirrors.nothing (mirrors : Mirrors history use)
    (short : history.length < MAX_RECENT_OPERATIONS) : use.log.mOperations 0 = none :=
  mirrors.ring.vacant 0 (by decide) short (Or.inl rfl)

/-- The loop goes through the last operations, the newest first. -/
theorem Mirrors.dumpFrom (mirrors : Mirrors history use) (formatted : Int → String) (now : Int)
    (verbose : Bool) {left n : Nat} (whole : n + left = MAX_RECENT_OPERATIONS)
    (inside : n ≤ history.length) :
    use.log.dumpFrom formatted now verbose left n
        ((history.length - n) % MAX_RECENT_OPERATIONS) =
      (((history.reverse.drop n).take left).zipIdx n).map fun entry =>
        OperationLog.dumpLine formatted now verbose entry.1 entry.2 := by
  induction left generalizing n with
  | zero =>
      rw [List.take_zero]
      rfl
  | succ left ih =>
      rcases Nat.lt_or_ge n history.length with more | done
      · obtain ⟨entry, held, read, there, alike⟩ := mirrors.slot more (by omega)
        have within : n < history.reverse.length := by
          rw [List.length_reverse]
          exact more
        have here : history.reverse[n] = entry := by
          refine Option.some.inj ?_
          rw [← List.getElem?_eq_getElem within, List.getElem?_reverse more]
          exact there
        have further : (if 0 < (history.length - n) % MAX_RECENT_OPERATIONS then
            (history.length - n) % MAX_RECENT_OPERATIONS - 1 else MAX_RECENT_OPERATIONS - 1) =
              (history.length - (n + 1)) % MAX_RECENT_OPERATIONS := by
          rw [MAX_RECENT_OPERATIONS]
          split <;> omega
        rw [List.drop_eq_getElem_cons within, here, List.take_succ_cons, List.zipIdx_cons,
          List.map_cons, ← ih (by omega) (by omega), OperationLog.dumpFrom, read]
        dsimp only
        rw [further, OperationLog.dumpLine, OperationLog.dumpLine, alike.describe,
          alike.mStartTime]
      · have same : n = history.length := by omega
        have nothing := mirrors.nothing (by omega)
        rw [same, Nat.sub_self, Nat.zero_mod, OperationLog.dumpFrom, nothing,
          List.drop_eq_nil_of_le (by rw [List.length_reverse]), List.take_nil]
        rfl

theorem Mirrors.dump (mirrors : Mirrors history use) (formatted : Int → String) (now : Int)
    (verbose : Bool) :
    use.log.dump formatted now verbose = plainDump formatted now verbose history := by
  rw [OperationLog.dump, plainDump]
  refine congrArg _ ?_
  cases empty : decide (history = []) with
  | true =>
      have nil := of_decide_eq_true empty
      rw [if_pos nil, mirrors.index, nil]
      have nothing := mirrors.nothing (by rw [nil]; decide)
      rw [List.length_nil, Nat.zero_mod, nothing]
  | false =>
      have nonempty := of_decide_eq_false empty
      have positive : 0 < history.length := List.length_pos_iff.mpr nonempty
      obtain ⟨entry, held, read, -, -⟩ := mirrors.slot positive (by decide)
      have lines := mirrors.dumpFrom formatted now verbose (Nat.zero_add MAX_RECENT_OPERATIONS)
        (Nat.zero_le _)
      rw [Nat.sub_zero] at read lines
      rw [if_neg nonempty, mirrors.index, read]
      exact lines

theorem Mirrors.describeCurrentOperation (mirrors : Mirrors history use) (now : Int) :
    (use.log.describeCurrentOperation now).toList = plainDescribe now history := by
  rw [OperationLog.describeCurrentOperation, plainDescribe, List.getLast?_eq_getElem?,
    mirrors.index]
  rcases Nat.eq_zero_or_pos history.length with unused | positive
  · have nothing := mirrors.nothing (by rw [unused]; decide)
    rw [unused, Nat.zero_mod, nothing, List.length_eq_zero_iff.mp unused]
    rfl
  · obtain ⟨entry, held, read, there, alike⟩ := mirrors.slot positive (by decide)
    rw [Nat.sub_zero] at read there
    rw [read, there]
    dsimp only
    rw [alike.mFinished, alike.describe]
    cases entry.mFinished with
    | true => rfl
    | false => rfl

/-- A step of the ring beside a step of the list. -/
theorem Mirrors.perform (mirrors : Mirrors history use) (formatted : Int → String)
    (action : Action) (young : Young history action) :
    ((machine formatted).perform action use).1 = ((plain formatted).perform action history).1 ∧
      Mirrors ((plain formatted).perform action history).2
        ((machine formatted).perform action use).2 := by
  cases action with
  | begins now kind sql bindArgs => exact ⟨rfl, mirrors.begins now kind sql bindArgs⟩
  | fails operation message =>
      have cookie := mirrors.cookie operation
      dsimp only [machine, Log.perform, plain]
      split at cookie
      · rw [cookie]
        exact ⟨rfl, mirrors.changes ‹_› young
          (fun entry held alike => { alike with mException := rfl }) fun _ => rfl⟩
      · rw [cookie, List.modify_eq_self (by omega)]
        exact ⟨rfl, mirrors⟩
  | ends operation now =>
      have cookie := mirrors.cookie operation
      dsimp only [machine, Log.perform, plain]
      split at cookie
      · rw [cookie]
        exact ⟨rfl, mirrors.changes ‹_› young
          (fun entry held alike => { alike with mEndTime := fun _ => rfl, mFinished := rfl })
          fun _ => rfl⟩
      · rw [cookie, List.modify_eq_self (by omega)]
        exact ⟨rfl, mirrors⟩
  | describesCurrent now => exact ⟨mirrors.describeCurrentOperation now, mirrors⟩
  | dumps now verbose => exact ⟨mirrors.dump formatted now verbose, mirrors⟩

/-- In every run, the log prints what the list of all operations prints of its end, as long
as no cookie is used when it has come again. -/
theorem log_shows_last (formatted : Int → String) (run : List Action)
    (young : (plain formatted).Along Young [] run) :
    (machine formatted).Together (plain formatted) (fun _ printed expected => printed = expected)
      ⟨{}, []⟩ [] run :=
  Machine.together_of_steps _ (fun use history => Mirrors history use)
    (fun _ _ action mirrors young => mirrors.perform formatted action young) _ _ run
    mirrors_initially young

/-- Two operations, of which the first fails. -/
theorem log_shows_last_two :
    (machine toString).Together (plain toString) (fun _ printed expected => printed = expected)
      ⟨{}, []⟩ [] [.begins 0 "execute" none none, .begins 5 "prepare" none none, .fails 0 "failed",
        .ends 0 9, .describesCurrent 10, .dumps 11 true] :=
  log_shows_last toString _
    ⟨trivial, trivial, (by decide : 2 ≤ 5 * 2 ^ 24), (by decide : 2 ≤ 5 * 2 ^ 24), trivial, trivial,
      trivial⟩

end Steps

end Log
end ModuleDatabase
