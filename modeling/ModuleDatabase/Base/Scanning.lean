import Mathlib.Data.List.Basic

namespace ModuleDatabase

/-!
# Scanners and substitutions

A scanner cuts a text in two: what it takes from the beginning, and the rest.
A lexer tries, at each place where a lexeme begins, the scanner that belongs to
the first letter; what that takes is the rest of the lexeme.

A substitution puts a text in the place of each letter.  The scanners here look
for single letters or take the longest stretch of letters of a kind, so they
follow every substitution that leaves the letters looked for in their places
and the kinds as they are: it does not matter then whether one first cuts a
text or first substitutes.  If the scanners of a lexer do, the lexemes of the
substituted text are the substituted lexemes.
-/

/-- A way to cut a text in two. -/
abbrev Scanner (α : Type) := List α → List α × List α

namespace Scanner

variable {α : Type}

/-- Take nothing. -/
def nothing : Scanner α := fun text => ([], text)

/-- Take letters as long as they pass a test. -/
def run (test : α → Bool) : Scanner α := fun text => (text.takeWhile test, text.dropWhile test)

/-- Take what the first scanner takes, and then what the second does. -/
def andThen (first second : Scanner α) : Scanner α := fun text =>
  ((first text).1 ++ (second (first text).2).1, (second (first text).2).2)

/-- If the first letter passes a test, take it, and then what the scanner takes. -/
def lead (test : α → Bool) (scanner : Scanner α) : Scanner α
  | [] => ([], [])
  | c :: rest => if test c then (c :: (scanner rest).1, (scanner rest).2) else ([], c :: rest)

/-- The first letters pass these tests. -/
def looking : List (α → Bool) → List α → Bool
  | [], _ => true
  | _ :: _, [] => false
  | test :: tests, c :: rest => test c && looking tests rest

/-- One of two scanners, as the text looks. -/
def choose (test : List α → Bool) (first second : Scanner α) : Scanner α := fun text =>
  if test text then first text else second text

section Delimiters

variable [DecidableEq α]

/-- Take everything up to a letter, and that letter. -/
def through (stop : α) : Scanner α
  | [] => ([], [])
  | c :: rest =>
      if c = stop then ([c], rest) else (c :: (through stop rest).1, (through stop rest).2)

/-- Take everything up to a letter that is not doubled, and that letter. -/
def quoted (quote : α) : Scanner α
  | [] => ([], [])
  | [c] => ([c], [])
  | c :: d :: rest =>
      if c = quote then
        if d = quote then (c :: d :: (quoted quote rest).1, (quoted quote rest).2)
        else ([c], d :: rest)
      else (c :: (quoted quote (d :: rest)).1, (quoted quote (d :: rest)).2)

/-- Take everything up to two letters in a row, and these. -/
def throughPair (first second : α) : Scanner α
  | [] => ([], [])
  | [c] => ([c], [])
  | c :: d :: rest =>
      if c = first ∧ d = second then ([c, d], rest)
      else (c :: (throughPair first second (d :: rest)).1,
        (throughPair first second (d :: rest)).2)

end Delimiters

/-! ## Nothing is lost -/

/-- The two parts make up the text. -/
def Splits (scanner : Scanner α) : Prop := ∀ text, (scanner text).1 ++ (scanner text).2 = text

theorem splits_nothing : Splits (nothing : Scanner α) := fun _ => rfl

theorem splits_run (test : α → Bool) : Splits (run test) := fun _ => List.takeWhile_append_dropWhile

theorem Splits.andThen {first second : Scanner α} (splits : Splits first)
    (also : Splits second) : Splits (andThen first second) := by
  intro text
  rw [Scanner.andThen, List.append_assoc, also, splits]

theorem Splits.lead {scanner : Scanner α} (splits : Splits scanner) (test : α → Bool) :
    Splits (lead test scanner) := by
  intro text
  cases text with
  | nil => rfl
  | cons c rest =>
      rw [Scanner.lead]
      split
      · rw [List.cons_append, splits]
      · rfl

theorem Splits.choose {first second : Scanner α} (splits : Splits first) (also : Splits second)
    (test : List α → Bool) : Splits (choose test first second) := by
  intro text
  rw [Scanner.choose]
  split
  · exact splits text
  · exact also text

theorem splits_through [DecidableEq α] (stop : α) : Splits (through stop) := by
  intro text
  induction text with
  | nil => rfl
  | cons c rest ih =>
      rw [through]
      split
      · rfl
      · rw [List.cons_append, ih]

theorem splits_quoted [DecidableEq α] (quote : α) : Splits (quoted quote) := by
  intro text
  induction text using quoted.induct quote with
  | case1 => rfl
  | case2 c => rfl
  | case3 rest ih => simp only [quoted, if_true, List.cons_append, ih]
  | case4 d rest differ => simp only [quoted, if_true, if_neg differ, List.cons_append,
      List.nil_append]
  | case5 c d rest differ ih => simp only [quoted, if_neg differ, List.cons_append, ih]

theorem splits_throughPair [DecidableEq α] (first second : α) :
    Splits (throughPair first second) := by
  intro text
  induction text using throughPair.induct first second with
  | case1 => rfl
  | case2 c => rfl
  | case3 c d rest both => simp only [throughPair, if_pos both, List.cons_append, List.nil_append]
  | case4 c d rest other ih => simp only [throughPair, if_neg other, List.cons_append, ih]

/-! ## Substituting -/

/-- Letters are not lost, and those that stand for a letter pass a test if it does. -/
def Stable (upper : α → List α) (test : α → Bool) : Prop := ∀ c, ∀ d ∈ upper c, test d = test c

/-- A letter stands for itself and for no other. -/
structure Fixed (upper : α → List α) (letter : α) : Prop where
  same : upper letter = [letter]
  only : ∀ c, letter ∈ upper c → c = letter

/-- It does not matter whether one first cuts or first substitutes. -/
def Follows (upper : α → List α) (scanner : Scanner α) : Prop :=
  ∀ text, scanner (text.flatMap upper) =
    ((scanner text).1.flatMap upper, (scanner text).2.flatMap upper)

section Substituting

variable {upper : α → List α} (nonempty : ∀ c, upper c ≠ [])

theorem follows_nothing : Follows upper nothing := fun _ => rfl

theorem Follows.andThen {first second : Scanner α} (follows : Follows upper first)
    (also : Follows upper second) : Follows upper (andThen first second) := by
  intro text
  rw [Scanner.andThen, Scanner.andThen, follows text]
  dsimp only
  rw [also, List.flatMap_append]

theorem run_append {test : α → Bool} {front : List α} (passes : ∀ c ∈ front, test c = true)
    (text : List α) : run test (front ++ text) = (front ++ (run test text).1, (run test text).2) := by
  rw [run, run, List.takeWhile_append_of_pos passes, List.dropWhile_append_of_pos passes]

include nonempty

theorem follows_run {test : α → Bool} (stable : Stable upper test) : Follows upper (run test) := by
  intro text
  induction text with
  | nil => rfl
  | cons c rest ih =>
      rw [List.flatMap_cons]
      cases passes : test c with
      | true =>
          have all : ∀ d ∈ upper c, test d = true := fun d inside => (stable c d inside).trans passes
          rw [run_append all, ih]
          simp only [run, List.takeWhile_cons_of_pos passes, List.dropWhile_cons_of_pos passes,
            List.flatMap_cons]
      | false =>
          rcases List.exists_cons_of_ne_nil (nonempty c) with ⟨d, more, split⟩
          have fails : test d = false := by
            rw [stable c d (by rw [split]; exact List.mem_cons_self), passes]
          simp only [run, split, List.cons_append, passes, fails, List.takeWhile_cons,
            List.dropWhile_cons, List.flatMap_cons, Bool.false_eq_true, if_false, List.flatMap_nil]

theorem Follows.lead {scanner : Scanner α} (follows : Follows upper scanner) {test : α → Bool}
    (stable : Stable upper test) (single : ∀ c, test c = true → (upper c).length = 1) :
    Follows upper (lead test scanner) := by
  intro text
  cases text with
  | nil => rfl
  | cons c rest =>
      rcases List.exists_cons_of_ne_nil (nonempty c) with ⟨d, more, split⟩
      have same : test d = test c := stable c d (by rw [split]; exact List.mem_cons_self)
      cases passes : test c with
      | true =>
          have one := single c passes
          rw [split, List.length_cons, Nat.add_eq_right, List.length_eq_zero_iff] at one
          rw [one] at split
          simp only [List.flatMap_cons, split, Scanner.lead, same, passes, List.singleton_append,
            if_true, follows rest]
      | false =>
          simp only [List.flatMap_cons, split, Scanner.lead, same, passes, List.cons_append,
            Bool.false_eq_true, if_false, List.flatMap_nil]

theorem length_le_flatMap (text : List α) : text.length ≤ (text.flatMap upper).length := by
  induction text with
  | nil => exact Nat.le_refl _
  | cons c rest ih =>
      have one := List.length_pos_iff.mpr (nonempty c)
      rw [List.flatMap_cons, List.length_append, List.length_cons]
      omega

/-- Only the letters that stand for themselves are left as they are. -/
theorem flatMap_eq_self_iff (text : List α) :
    text.flatMap upper = text ↔ ∀ c ∈ text, upper c = [c] := by
  constructor
  · intro same
    induction text with
    | nil =>
        intro c inside
        cases inside
    | cons c rest ih =>
        rcases List.exists_cons_of_ne_nil (nonempty c) with ⟨d, more, split⟩
        have longer := length_le_flatMap nonempty rest
        have lengths := congrArg List.length same
        rw [List.flatMap_cons, split, List.length_append, List.length_cons, List.length_cons]
          at lengths
        have alone : more = [] := List.length_eq_zero_iff.mp (by omega)
        rw [alone] at split
        rw [List.flatMap_cons, split, List.singleton_append, List.cons.injEq] at same
        rw [same.1] at split
        intro e inside
        rcases List.mem_cons.mp inside with first | later
        · rw [first, split]
        · exact ih same.2 e later
  · intro still
    calc
      text.flatMap upper = text.flatMap fun c => [c] := List.flatMap_congr still
      _ = text := List.flatMap_singleton' text

omit nonempty in
theorem Follows.choose {first second : Scanner α} (follows : Follows upper first)
    (also : Follows upper second) {test : List α → Bool}
    (same : ∀ text, test (text.flatMap upper) = test text) :
    Follows upper (choose test first second) := by
  intro text
  rw [Scanner.choose, Scanner.choose, same]
  split
  · exact follows text
  · exact also text

/-- The text looks the same if the tests before the last one pass only letters for
which a single one stands. -/
theorem looking_flatMap {tests : List (α → Bool)} (stable : ∀ test ∈ tests, Stable upper test)
    (single : ∀ test ∈ tests.dropLast, ∀ c, test c = true → (upper c).length = 1)
    (text : List α) : looking tests (text.flatMap upper) = looking tests text := by
  induction tests generalizing text with
  | nil => rfl
  | cons test others ih =>
      cases text with
      | nil => rfl
      | cons c rest =>
          rcases List.exists_cons_of_ne_nil (nonempty c) with ⟨d, more, split⟩
          have same : test d = test c :=
            stable test List.mem_cons_self c d (by rw [split]; exact List.mem_cons_self)
          rw [List.flatMap_cons, split, List.cons_append, looking, looking, same]
          cases passes : test c with
          | false => rfl
          | true =>
              cases others with
              | nil => rfl
              | cons next later =>
                  have one := single test List.mem_cons_self c passes
                  rw [split, List.length_cons, Nat.add_eq_right, List.length_eq_zero_iff] at one
                  rw [one, List.nil_append,
                    ih (fun other member => stable other (List.mem_cons_of_mem _ member))
                      (fun other member => single other (List.mem_cons_of_mem _ member))]

end Substituting

theorem Fixed.not_mem {upper : α → List α} {letter c : α} (fixed : Fixed upper letter)
    (other : c ≠ letter) : letter ∉ upper c := fun inside => other (fixed.only c inside)

section FollowingDelimiters

variable [DecidableEq α] {upper : α → List α} (nonempty : ∀ c, upper c ≠ [])

theorem through_append {stop : α} {front : List α} (free : stop ∉ front) (text : List α) :
    through stop (front ++ text) = (front ++ (through stop text).1, (through stop text).2) := by
  induction front with
  | nil => rfl
  | cons c rest ih =>
      rw [List.mem_cons, not_or] at free
      rw [List.cons_append, through, if_neg (Ne.symm free.1), ih free.2, List.cons_append]

theorem quoted_append {quote : α} {front : List α} (free : quote ∉ front) (text : List α) :
    quoted quote (front ++ text) = (front ++ (quoted quote text).1, (quoted quote text).2) := by
  induction front with
  | nil => rfl
  | cons c rest ih =>
      rw [List.mem_cons, not_or] at free
      have tail := ih free.2
      cases behind : rest ++ text with
      | nil =>
          rcases List.append_eq_nil_iff.mp behind with ⟨noRest, noText⟩
          rw [noRest, noText]
          rfl
      | cons d more =>
          rw [behind] at tail
          rw [List.cons_append, behind, quoted, if_neg (Ne.symm free.1), tail, List.cons_append]

theorem throughPair_append {first second : α} {front : List α} (free : first ∉ front)
    (text : List α) : throughPair first second (front ++ text) =
      (front ++ (throughPair first second text).1, (throughPair first second text).2) := by
  induction front with
  | nil => rfl
  | cons c rest ih =>
      rw [List.mem_cons, not_or] at free
      have tail := ih free.2
      cases behind : rest ++ text with
      | nil =>
          rcases List.append_eq_nil_iff.mp behind with ⟨noRest, noText⟩
          rw [noRest, noText]
          rfl
      | cons d more =>
          rw [behind] at tail
          rw [List.cons_append, behind, throughPair, if_neg (fun both => free.1 both.1.symm), tail,
            List.cons_append]

theorem follows_through {stop : α} (fixed : Fixed upper stop) : Follows upper (through stop) := by
  intro text
  induction text with
  | nil => rfl
  | cons c rest ih =>
      rw [List.flatMap_cons, through]
      by_cases here : c = stop
      · rw [if_pos here, here, fixed.same, List.singleton_append, through, if_pos rfl,
          List.flatMap_singleton, fixed.same]
      · rw [if_neg here, through_append (fixed.not_mem here), ih, List.flatMap_cons]

include nonempty

theorem follows_quoted {quote : α} (fixed : Fixed upper quote) : Follows upper (quoted quote) := by
  intro text
  induction text using quoted.induct quote with
  | case1 => rfl
  | case2 c =>
      rw [List.flatMap_singleton, quoted]
      by_cases here : c = quote
      · rw [here, fixed.same, List.flatMap_singleton, fixed.same]
        rfl
      · have whole := quoted_append (fixed.not_mem here) ([] : List α)
        rw [List.append_nil] at whole
        rw [whole, List.flatMap_singleton, quoted, List.append_nil]
        rfl
  | case3 rest ih =>
      simp only [List.flatMap_cons, fixed.same, List.singleton_append, quoted, if_true, ih]
  | case4 d rest differ =>
      rcases List.exists_cons_of_ne_nil (nonempty d) with ⟨e, more, split⟩
      have other : e ≠ quote := by
        intro same
        apply fixed.not_mem differ
        rw [split, same]
        exact List.mem_cons_self
      simp only [List.flatMap_cons, fixed.same, split, List.cons_append, List.nil_append, quoted,
        if_true, if_neg other, if_neg differ, List.flatMap_nil, List.append_nil]
  | case5 c d rest differ ih =>
      rw [List.flatMap_cons, quoted_append (fixed.not_mem differ), ih, quoted, if_neg differ,
        List.flatMap_cons]

theorem follows_throughPair {first second : α} (fixed : Fixed upper first)
    (also : Fixed upper second) : Follows upper (throughPair first second) := by
  intro text
  induction text using throughPair.induct first second with
  | case1 => rfl
  | case2 c =>
      rw [List.flatMap_singleton, throughPair]
      by_cases here : c = first
      · rw [here, fixed.same, List.flatMap_singleton, fixed.same]
        rfl
      · have whole : throughPair first second (upper c ++ []) = (upper c ++ [], []) :=
          throughPair_append (fixed.not_mem here) []
        rw [List.append_nil] at whole
        rw [whole, List.flatMap_singleton]
        rfl
  | case3 c d rest both =>
      rw [both.1, both.2, throughPair, if_pos ⟨rfl, rfl⟩]
      simp only [List.flatMap_cons, fixed.same, also.same, List.singleton_append, throughPair,
        and_self, if_true, List.flatMap_nil]
  | case4 c d rest other ih =>
      rw [List.flatMap_cons, throughPair, if_neg other]
      by_cases here : c = first
      · rcases List.exists_cons_of_ne_nil (nonempty d) with ⟨e, more, split⟩
        have differ : ¬ (first = first ∧ e = second) := by
          rintro ⟨-, same⟩
          apply also.not_mem (fun isSecond => other ⟨here, isSecond⟩)
          rw [split, same]
          exact List.mem_cons_self
        rw [List.flatMap_cons, split, List.cons_append] at ih ⊢
        rw [here, fixed.same, List.singleton_append, throughPair, if_neg differ, ih,
          List.flatMap_cons, fixed.same]
        rfl
      · rw [throughPair_append (fixed.not_mem here), ih, List.flatMap_cons]

end FollowingDelimiters

end Scanner

/-! ## Lexemes -/

section Lexemes

variable {α : Type}

/-- The lexemes of a text, at most so many. -/
def lexemesFrom (follow : α → Scanner α) : Nat → List α → List (List α)
  | 0, _ => []
  | _ + 1, [] => []
  | fuel + 1, c :: rest =>
      (c :: (follow c rest).1) :: lexemesFrom follow fuel (follow c rest).2

/-- The lexemes of a text. -/
def lexemes (follow : α → Scanner α) (text : List α) : List (List α) :=
  lexemesFrom follow text.length text

variable {follow : α → Scanner α} (splits : ∀ c, (follow c).Splits)
include splits

theorem length_rest_le (c : α) (rest : List α) : (follow c rest).2.length ≤ rest.length := by
  have whole := congrArg List.length (splits c rest)
  rw [List.length_append] at whole
  omega

/-- There are no more lexemes than letters. -/
theorem lexemesFrom_eq {fuel : Nat} {text : List α} (enough : text.length ≤ fuel) :
    lexemesFrom follow fuel text = lexemes follow text := by
  have general : ∀ fuel other (text : List α), text.length ≤ fuel → text.length ≤ other →
      lexemesFrom follow fuel text = lexemesFrom follow other text := by
    intro fuel
    induction fuel with
    | zero =>
        intro other text empty _
        rw [List.length_eq_zero_iff.mp (Nat.le_zero.mp empty)]
        cases other <;> rfl
    | succ fuel ih =>
        intro other text enough also
        cases text with
        | nil => cases other <;> rfl
        | cons c rest =>
            cases other with
            | zero => exact absurd also (Nat.not_succ_le_zero _)
            | succ other =>
                have fewer := length_rest_le splits c rest
                rw [List.length_cons] at enough also
                rw [lexemesFrom, lexemesFrom, ih other _ (by omega) (by omega)]
  exact general fuel text.length text enough (Nat.le_refl _)

theorem lexemes_cons (c : α) (rest : List α) :
    lexemes follow (c :: rest) = (c :: (follow c rest).1) :: lexemes follow (follow c rest).2 := by
  rw [lexemes, List.length_cons, lexemesFrom, lexemesFrom_eq splits (length_rest_le splits c rest)]

/-- The lexemes make up the text. -/
theorem flatten_lexemes (text : List α) : (lexemes follow text).flatten = text := by
  have general : ∀ fuel, ∀ text : List α, text.length ≤ fuel →
      (lexemesFrom follow fuel text).flatten = text := by
    intro fuel
    induction fuel with
    | zero =>
        intro text empty
        rw [List.length_eq_zero_iff.mp (Nat.le_zero.mp empty)]
        rfl
    | succ fuel ih =>
        intro text enough
        cases text with
        | nil => rfl
        | cons c rest =>
            have fewer := length_rest_le splits c rest
            rw [List.length_cons] at enough
            rw [lexemesFrom, List.flatten_cons, ih _ (by omega), List.cons_append, splits c rest]
  exact general text.length text (Nat.le_refl _)

/-- If a substitution takes the beginning of each lexeme to the beginning of one,
then it takes lexemes to lexemes. -/
theorem lexemes_flatMap {upper : α → List α}
    (begins : ∀ c rest, ∃ d more, upper c = d :: more ∧
      follow d (more ++ rest.flatMap upper) =
        (more ++ (follow c rest).1.flatMap upper, (follow c rest).2.flatMap upper))
    (text : List α) :
    lexemes follow (text.flatMap upper) = (lexemes follow text).map (List.flatMap upper) := by
  have general : ∀ length, ∀ text : List α, text.length ≤ length →
      lexemes follow (text.flatMap upper) = (lexemes follow text).map (List.flatMap upper) := by
    intro length
    induction length with
    | zero =>
        intro text empty
        rw [List.length_eq_zero_iff.mp (Nat.le_zero.mp empty)]
        rfl
    | succ length ih =>
        intro text enough
        cases text with
        | nil => rfl
        | cons c rest =>
            rcases begins c rest with ⟨d, more, split, follows⟩
            have fewer := length_rest_le splits c rest
            rw [List.length_cons] at enough
            rw [List.flatMap_cons, split, List.cons_append, lexemes_cons splits, follows,
              ih _ (by omega), lexemes_cons splits, List.map_cons, List.flatMap_cons, split,
              List.cons_append]
  exact general text.length text (Nat.le_refl _)

end Lexemes

end ModuleDatabase
