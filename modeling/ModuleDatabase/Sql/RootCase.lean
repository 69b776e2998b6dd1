import Mathlib.Data.List.Forall2
import ModuleDatabase.Base.Text
import ModuleDatabase.Sql.Lexer

namespace ModuleDatabase
namespace Sql

open Text
open Scanner

/-!
# Tokens in upper case

A text in upper case is made by putting a text in the place of each character.
Marks, that is, what is neither a letter nor beyond ASCII, stand for themselves
and for nothing else, and the tests of the lexer either pass marks only or do
not tell small letters from capitals.  So the lexer finds the tokens of the text
in upper case where it finds the tokens of the text: each is a token of the text
in upper case.

A token is then still the same if it is a name, or if there is no small letter
in it; and a word must not become a reserved one.
-/

/-- Texts in upper case, character by character, without regard to a language.
What stands for a letter beyond ASCII may be longer; as far as it is ASCII, it is a
capital, but no `E` and no `X`. -/
structure RootCase (upper : Char → List Char) : Prop where
  ascii : ∀ c, c.toNat < 128 → upper c = [c.toUpper]
  beyond : ∀ c, 128 ≤ c.toNat → upper c ≠ [] ∧
    ∀ d ∈ upper c, 128 ≤ d.toNat ∨ d.isUpper = true ∧ d ≠ 'E' ∧ d ≠ 'X'
  again : ∀ c, ∀ d ∈ upper c, upper d = [d]

/-- A character that is neither a letter nor beyond ASCII. -/
def IsMark (c : Char) : Prop := c.toNat < 128 ∧ c.isAlpha = false

instance (c : Char) : Decidable (IsMark c) :=
  inferInstanceAs (Decidable (c.toNat < 128 ∧ c.isAlpha = false))

theorem toUpper_of_mark {c : Char} (mark : IsMark c) : c.toUpper = c := by
  have all : ∀ n : Fin 128, (Char.ofNat n).isAlpha = false →
      (Char.ofNat n).toUpper = Char.ofNat n := by decide +kernel
  exact forall_ascii (p := fun c => c.isAlpha = false → c.toUpper = c) all mark.1 mark.2

namespace RootCase

variable {upper : Char → List Char} (root : RootCase upper)
include root

theorem ne_nil (c : Char) : upper c ≠ [] := by
  by_cases ascii : c.toNat < 128
  · rw [root.ascii c ascii]
    exact List.cons_ne_nil _ _
  · exact (root.beyond c (Nat.le_of_not_lt ascii)).1

theorem mark {c : Char} (mark : IsMark c) : upper c = [c] := by
  rw [root.ascii c mark.1, toUpper_of_mark mark]

/-- A mark stands for itself only. -/
theorem fixed {k : Char} (mark : IsMark k) : Fixed upper k where
  same := root.mark mark
  only := by
    intro c inside
    by_cases ascii : c.toNat < 128
    · rw [root.ascii c ascii, List.mem_singleton] at inside
      have all : ∀ n : Fin 128, (Char.ofNat n).toUpper.isAlpha = false →
          Char.ofNat n = (Char.ofNat n).toUpper := by decide +kernel
      have same := forall_ascii (p := fun c => c.toUpper.isAlpha = false → c = c.toUpper) all ascii
      rw [inside]
      exact same (inside ▸ mark.2)
    · rcases (root.beyond c (Nat.le_of_not_lt ascii)).2 k inside with far | ⟨capital, -⟩
      · exact absurd mark.1 (Nat.not_lt_of_ge far)
      · have alpha := mark.2
        rw [isAlpha_of_isUpper capital] at alpha
        cases alpha

/-- A test that ignores case within ASCII, and takes all capitals but `E` and `X`
and all characters beyond ASCII alike. -/
theorem stable {test : Char → Bool}
    (ascii : ∀ n : Fin 128, test (Char.ofNat n).toUpper = test (Char.ofNat n))
    (beyond : ∀ c d : Char, 128 ≤ c.toNat →
      (128 ≤ d.toNat ∨ d.isUpper = true ∧ d ≠ 'E' ∧ d ≠ 'X') → test d = test c) :
    Stable upper test := by
  intro c d inside
  by_cases near : c.toNat < 128
  · rw [root.ascii c near, List.mem_singleton] at inside
    rw [inside]
    exact forall_ascii (p := fun c => test c.toUpper = test c) ascii near
  · have far := Nat.le_of_not_lt near
    exact beyond c d far ((root.beyond c far).2 d inside)

/-- A test that passes marks only. -/
theorem stable_of_marks {test : Char → Bool} (marks : ∀ c, test c = true → IsMark c) :
    Stable upper test := by
  intro c d inside
  cases passes : test c with
  | true =>
      rw [root.mark (marks c passes), List.mem_singleton] at inside
      rw [inside, passes]
  | false =>
      apply Bool.eq_false_iff.mpr
      intro also
      rw [(root.fixed (marks d also)).only c inside, also] at passes
      cases passes

theorem single_of_marks {test : Char → Bool} (marks : ∀ c, test c = true → IsMark c) (c : Char)
    (passes : test c = true) : (upper c).length = 1 := by
  rw [root.mark (marks c passes)]
  rfl

end RootCase

/-! ## Classes of characters -/

theorem isMark_of_beq {k : Char} (mark : IsMark k) (c : Char) (here : (c == k) = true) :
    IsMark c := by
  rw [beq_iff_eq.mp here]
  exact mark

/-- A test that ends before 128 and passes no letter passes marks only. -/
theorem marks_of_ascii {test : Char → Bool} (near : ∀ c, test c = true → c.toNat < 128)
    (ascii : ∀ n : Fin 128, test (Char.ofNat n) = true → (Char.ofNat n).isAlpha = false) (c : Char)
    (passes : test c = true) : IsMark c :=
  ⟨near c passes,
    forall_ascii (p := fun c => test c = true → c.isAlpha = false) ascii (near c passes) passes⟩

theorem isDigit_near (c : Char) (digit : c.isDigit = true) : c.toNat < 128 := by
  rw [Char.isDigit, Bool.and_eq_true, decide_eq_true_eq, decide_eq_true_eq] at digit
  have upTo : c.val.toNat ≤ 57 := digit.2
  have same : c.val.toNat = c.toNat := rfl
  omega

theorem isDigit_marks : ∀ c : Char, c.isDigit = true → IsMark c :=
  marks_of_ascii isDigit_near (by decide +kernel)

theorem isSpace_near (c : Char) (space : isSpace c = true) : c.toNat < 128 := by
  simp only [isSpace, Bool.or_eq_true, beq_iff_eq] at space
  rcases space with (((same | same) | same) | same) | same <;> rw [same] <;> decide

theorem isSpace_marks : ∀ c, isSpace c = true → IsMark c :=
  marks_of_ascii isSpace_near (by decide +kernel)

theorem isSign_marks : ∀ c, isSign c = true → IsMark c := by
  intro c sign
  rw [isSign, Bool.or_eq_true] at sign
  rcases sign with plus | minus
  · exact isMark_of_beq (by decide) c plus
  · exact isMark_of_beq (by decide) c minus

/-- Beyond ASCII there are only letters. -/
theorem classOf_beyond {c : Char} (far : 128 ≤ c.toNat) : classOf c = .letter := by
  have other : ∀ k : Char, k.toNat < 128 → (c == k) = false := by
    intro k near
    rw [beq_eq_false_iff_ne]
    rintro same
    rw [same] at far
    omega
  have letter : isLetter c = true := by
    rw [isLetter, decide_eq_true far, Bool.or_true]
  simp [classOf, isSpace, letter, other]

theorem isUpper_near (c : Char) (capital : c.isUpper = true) : c.toNat < 128 := by
  have upTo : c.val.toNat ≤ 90 := (of_decide_eq_true capital).2
  have same : c.val.toNat = c.toNat := rfl
  omega

theorem isIdChar_beyond {c : Char} (far : 128 ≤ c.toNat) : isIdChar c = true := by
  rw [isIdChar, isLetter, decide_eq_true far, Bool.or_true, Bool.true_or, Bool.true_or]

theorem isIdChar_capital {c : Char} (capital : c.isUpper = true) : isIdChar c = true := by
  simp only [isIdChar, isLetter, isAlpha_of_isUpper capital, Bool.true_or]

namespace RootCase

variable {upper : Char → List Char} (root : RootCase upper)
include root

theorem stable_isIdChar : Stable upper isIdChar := by
  apply root.stable (by decide +kernel)
  intro c d far near
  rw [isIdChar_beyond far]
  rcases near with alsoFar | ⟨capital, -⟩
  · exact isIdChar_beyond alsoFar
  · exact isIdChar_capital capital

theorem stable_isExponent : Stable upper isExponent := by
  have plain : ∀ c : Char, 128 ≤ c.toNat → isExponent c = false := by
    intro c far
    rw [isExponent, Bool.or_eq_false_iff, beq_eq_false_iff_ne, beq_eq_false_iff_ne]
    constructor
    · rintro same
      rw [same] at far
      revert far
      decide
    · rintro same
      rw [same] at far
      revert far
      decide
  apply root.stable (by decide +kernel)
  intro c d far near
  rw [plain c far]
  rcases near with alsoFar | ⟨capital, notE, -⟩
  · exact plain d alsoFar
  · rw [isExponent, Bool.or_eq_false_iff, beq_eq_false_iff_ne, beq_eq_false_iff_ne]
    refine ⟨?_, notE⟩
    rintro same
    rw [same] at capital
    revert capital
    decide

theorem single_isExponent (c : Char) (passes : isExponent c = true) : (upper c).length = 1 := by
  have near : c.toNat < 128 := by
    rw [isExponent, Bool.or_eq_true, beq_iff_eq, beq_iff_eq] at passes
    rcases passes with same | same <;> rw [same] <;> decide
  rw [root.ascii c near]
  rfl

theorem classOf_eq {c d : Char} (inside : d ∈ upper c) : classOf d = classOf c := by
  by_cases near : c.toNat < 128
  · rw [root.ascii c near, List.mem_singleton] at inside
    rw [inside]
    exact forall_ascii (p := fun c => classOf c.toUpper = classOf c) (by decide +kernel) near
  · have far := Nat.le_of_not_lt near
    rw [classOf_beyond far]
    rcases (root.beyond c far).2 d inside with alsoFar | ⟨capital, -, notX⟩
    · exact classOf_beyond alsoFar
    · have all : ∀ n : Fin 128, (Char.ofNat n).isUpper = true → Char.ofNat n ≠ 'X' →
          classOf (Char.ofNat n) = .letter := by decide +kernel
      exact forall_ascii (p := fun d => d.isUpper = true → d ≠ 'X' → classOf d = .letter) all
        (isUpper_near d capital) capital notX

end RootCase

/-- What is neither a word nor a blob literal begins with a mark. -/
theorem isMark_of_classOf {c : Char} (notLetter : classOf c ≠ .letter) (notEx : classOf c ≠ .ex) :
    IsMark c := by
  have near : c.toNat < 128 := by
    apply Nat.lt_of_not_le
    intro far
    exact notLetter (classOf_beyond far)
  have all : ∀ n : Fin 128, classOf (Char.ofNat n) ≠ .letter → classOf (Char.ofNat n) ≠ .ex →
      (Char.ofNat n).isAlpha = false := by decide +kernel
  exact ⟨near, forall_ascii (p := fun c => classOf c ≠ .letter → classOf c ≠ .ex →
    c.isAlpha = false) all near notLetter notEx⟩

theorem seconds_subset (c : Char) : seconds c ⊆ ['=', '<', '>', '|'] := by
  unfold seconds
  repeat' split
  all_goals simp

theorem seconds_marks (c d : Char) (second : (seconds c).contains d = true) : IsMark d := by
  have among := seconds_subset c (List.contains_iff_mem.mp second)
  simp only [List.mem_cons, List.not_mem_nil, or_false] at among
  rcases among with same | same | same | same <;> rw [same] <;> decide

/-! ## The lexer and upper case -/

namespace RootCase

variable {upper : Char → List Char} (root : RootCase upper)
include root

theorem stable_beq {k : Char} (mark : IsMark k) : Stable upper (· == k) :=
  root.stable_of_marks (isMark_of_beq mark)

theorem single_beq {k : Char} (mark : IsMark k) (c : Char) (here : (c == k) = true) :
    (upper c).length = 1 :=
  root.single_of_marks (isMark_of_beq mark) c here

/-- The text looks alike in upper case for a test of its first character. -/
theorem looking_one {test : Char → Bool} (stable : Stable upper test) (text : List Char) :
    looking [test] (text.flatMap upper) = looking [test] text := by
  apply looking_flatMap root.ne_nil
  · intro other member
    rw [List.mem_singleton.mp member]
    exact stable
  · intro other member
    cases member

theorem looking_comment (text : List Char) :
    looking [(· == '*'), fun _ => true] (text.flatMap upper) =
      looking [(· == '*'), fun _ => true] text := by
  have star : IsMark '*' := by decide
  apply looking_flatMap root.ne_nil
  · intro test member
    rcases List.mem_cons.mp member with first | second
    · rw [first]
      exact root.stable_beq star
    · rw [List.mem_singleton.mp second]
      exact fun c d inside => rfl
  · intro test member
    rw [List.mem_singleton.mp member]
    exact root.single_beq star

theorem looking_exponent (text : List Char) :
    looking [isExponent, isSign, Char.isDigit] (text.flatMap upper) =
      looking [isExponent, isSign, Char.isDigit] text := by
  apply looking_flatMap root.ne_nil
  · intro test member
    rcases List.mem_cons.mp member with first | member
    · rw [first]
      exact root.stable_isExponent
    · rcases List.mem_cons.mp member with second | third
      · rw [second]
        exact root.stable_of_marks isSign_marks
      · rw [List.mem_singleton.mp third]
        exact root.stable_of_marks isDigit_marks
  · intro test member
    rcases List.mem_cons.mp member with first | second
    · rw [first]
      exact root.single_isExponent
    · rw [List.mem_singleton.mp second]
      exact root.single_of_marks isSign_marks

theorem follows_digits : Follows upper (run Char.isDigit) :=
  follows_run root.ne_nil (root.stable_of_marks isDigit_marks)

theorem follows_word : Follows upper (run isIdChar) :=
  follows_run root.ne_nil root.stable_isIdChar

theorem follows_signedExponent : Follows upper signedExponent := by
  have signed : Follows upper (lead isSign (run Char.isDigit)) :=
    root.follows_digits.lead root.ne_nil (root.stable_of_marks isSign_marks)
      (root.single_of_marks isSign_marks)
  exact (signed.lead root.ne_nil root.stable_isExponent root.single_isExponent).choose
    follows_nothing root.looking_exponent

theorem follows_decimals : Follows upper decimals :=
  root.follows_digits.andThen (root.follows_signedExponent.andThen root.follows_word)

theorem follows_number : Follows upper number := by
  have point : IsMark '.' := by decide
  have behindPoint : Follows upper (lead (· == '.') (run Char.isDigit)) :=
    root.follows_digits.lead root.ne_nil (root.stable_beq point) (root.single_beq point)
  exact root.follows_digits.andThen
    (behindPoint.andThen (root.follows_signedExponent.andThen root.follows_word))

/-- What belongs to a lexeme does in upper case. -/
theorem follows_follow (c : Char) : Follows upper (follow c) := by
  unfold follow
  cases ofClass : classOf c with
  | space => exact follows_run root.ne_nil (root.stable_of_marks isSpace_marks)
  | dash =>
      have dash : IsMark '-' := by decide
      have newline : IsMark '\n' := by decide
      have line : Stable upper (· != '\n') := by
        intro c d inside
        exact congrArg not (root.stable_beq newline c d inside)
      exact (follows_run root.ne_nil line).choose follows_nothing
        (root.looking_one (root.stable_beq dash))
  | slash =>
      have star : IsMark '*' := by decide
      have slash : IsMark '/' := by decide
      have comment : Follows upper (lead (· == '*') (throughPair '*' '/')) :=
        (follows_throughPair root.ne_nil (root.fixed star) (root.fixed slash)).lead root.ne_nil
          (root.stable_beq star) (root.single_beq star)
      exact comment.choose follows_nothing root.looking_comment
  | quote =>
      have mark : IsMark c := isMark_of_classOf (by rw [ofClass]; decide) (by rw [ofClass]; decide)
      exact follows_quoted root.ne_nil (root.fixed mark)
  | bracket =>
      have bracket : IsMark ']' := by decide
      exact follows_through (root.fixed bracket)
  | ex =>
      have quote : IsMark '\x27' := by decide
      have blob : Follows upper (lead (· == '\x27') (through '\x27')) :=
        (follows_through (root.fixed quote)).lead root.ne_nil (root.stable_beq quote)
          (root.single_beq quote)
      exact blob.choose root.follows_word (root.looking_one (root.stable_beq quote))
  | letter => exact root.follows_word
  | digit => exact root.follows_number
  | dot =>
      exact root.follows_decimals.choose follows_nothing
        (root.looking_one (root.stable_of_marks isDigit_marks))
  | question => exact root.follows_digits
  | parameter => exact root.follows_word
  | comparison =>
      exact follows_nothing.lead root.ne_nil (root.stable_of_marks (seconds_marks c))
        (root.single_of_marks (seconds_marks c))
  | other => exact follows_nothing

/-- What stands for a character begins the same kind of lexeme. -/
theorem follow_eq {c d : Char} (inside : d ∈ upper c) : follow d = follow c := by
  have same := root.classOf_eq inside
  by_cases mark : IsMark c
  · rw [root.mark mark, List.mem_singleton] at inside
    rw [inside]
  · have word : classOf c = .letter ∨ classOf c = .ex := by
      by_contra other
      rw [not_or] at other
      exact mark (isMark_of_classOf other.1 other.2)
    rcases word with letter | ex
    · rw [letter] at same
      simp only [follow, same, letter]
    · rw [ex] at same
      simp only [follow, same, ex]

/-- What stands for a character is its first character or goes on with a word. -/
theorem begins (c : Char) (rest : List Char) : ∃ d more, upper c = d :: more ∧
    follow d (more ++ rest.flatMap upper) =
      (more ++ (follow c rest).1.flatMap upper, (follow c rest).2.flatMap upper) := by
  rcases List.exists_cons_of_ne_nil (root.ne_nil c) with ⟨d, more, split⟩
  refine ⟨d, more, split, ?_⟩
  have first : d ∈ upper c := by
    rw [split]
    exact List.mem_cons_self
  rw [root.follow_eq first]
  by_cases near : c.toNat < 128
  · rw [root.ascii c near, List.cons.injEq] at split
    rw [← split.2]
    exact root.follows_follow c rest
  · have far := Nat.le_of_not_lt near
    have word : follow c = run isIdChar := by
      simp only [follow, classOf_beyond far]
    have goesOn : ∀ e ∈ more, isIdChar e = true := by
      intro e inside
      rw [root.stable_isIdChar c e (by rw [split]; exact List.mem_cons_of_mem _ inside)]
      exact isIdChar_beyond far
    rw [word, run_append goesOn, root.follows_word rest]

/-- The lexemes of a text in upper case are those of the text, in upper case. -/
theorem lexemes_upper (text : List Char) :
    lexemes follow (text.flatMap upper) = (lexemes follow text).map (List.flatMap upper) :=
  lexemes_flatMap splits_follow root.begins text

theorem upper_upper (text : List Char) :
    (text.flatMap upper).flatMap upper = text.flatMap upper := by
  apply (flatMap_eq_self_iff root.ne_nil _).mpr
  intro d inside
  rcases List.mem_flatMap.mp inside with ⟨c, -, stands⟩
  exact root.again c d stands

end RootCase

/-! ## Tokens -/

/-- A keyword or an identifier. -/
def Token.isName (token : Token) : Bool := token.kind == .keyword || token.kind == .identifier

/-- A word that is not in quotes. -/
def isUnquoted : List Char → Bool
  | [] => false
  | c :: rest =>
      classOf c == .letter || classOf c == .ex && !looking [(· == '\x27')] rest

/-- The tokens are the same, up to the case of a name. -/
def SameToken (upper : Char → List Char) (first second : Token) : Prop :=
  first.kind = second.kind ∧
    if first.isName then first.text.flatMap upper = second.text.flatMap upper
    else first.text = second.text

/-- The statements have the same tokens in the same order. -/
def SameStatement (reserved : List Char → Bool) (upper : Char → List Char)
    (first second : List Char) : Prop :=
  List.Forall₂ (SameToken upper) (tokens reserved first) (tokens reserved second)

/-- No letter of a token that is no name has a capital, and a word is reserved in
capitals only if it is. -/
structure CaseBlind (reserved : List Char → Bool) (upper : Char → List Char) (token : Token) :
    Prop where
  plain : token.isName = false → ∀ c ∈ token.text, upper c = [c]
  word : isUnquoted token.text = true →
    reserved (token.text.flatMap upper) = reserved token.text

/-- Whether a token depends on case, character by character. -/
def isCaseBlind (reserved : List Char → Bool) (upper : Char → List Char) (token : Token) : Bool :=
  (token.isName || token.text.all fun c => upper c == [c]) &&
    (!isUnquoted token.text || reserved (token.text.flatMap upper) == reserved token.text)

theorem isCaseBlind_iff (reserved : List Char → Bool) (upper : Char → List Char) (token : Token) :
    isCaseBlind reserved upper token = true ↔ CaseBlind reserved upper token := by
  rw [isCaseBlind, Bool.and_eq_true, Bool.or_eq_true, Bool.or_eq_true, List.all_eq_true,
    Bool.not_eq_true', beq_iff_eq]
  constructor
  · rintro ⟨plain, word⟩
    constructor
    · intro noName
      rcases plain with name | plain
      · rw [name] at noName
        cases noName
      · exact fun c inside => beq_iff_eq.mp (plain c inside)
    · intro unquoted
      rcases word with quoted | word
      · rw [quoted] at unquoted
        cases unquoted
      · exact word
  · rintro ⟨plain, word⟩
    constructor
    · cases name : token.isName with
      | true => exact Or.inl rfl
      | false => exact Or.inr fun c inside => beq_iff_eq.mpr (plain name c inside)
    · cases unquoted : isUnquoted token.text with
      | true => exact Or.inr (word unquoted)
      | false => exact Or.inl rfl

instance (reserved : List Char → Bool) (upper : Char → List Char) (token : Token) :
    Decidable (CaseBlind reserved upper token) :=
  decidable_of_iff _ (isCaseBlind_iff reserved upper token)

/-- Which words are reserved matters for words only. -/
theorem kindOf_quoted {text : List Char} (quoted : isUnquoted text = false)
    (reserved other : List Char → Bool) : kindOf reserved text = kindOf other text := by
  cases text with
  | nil => rfl
  | cons c rest =>
      rw [isUnquoted] at quoted
      unfold kindOf
      cases ofClass : classOf c <;> simp_all

theorem kindOf_unquoted {text : List Char} (unquoted : isUnquoted text = true)
    (reserved : List Char → Bool) :
    kindOf reserved text = if reserved text then .keyword else .identifier := by
  cases text with
  | nil => cases unquoted
  | cons c rest =>
      rw [isUnquoted] at unquoted
      unfold kindOf
      cases ofClass : classOf c <;> simp_all

namespace RootCase

variable {upper : Char → List Char} (root : RootCase upper)
include root

theorem count_upper {k : Char} (mark : IsMark k) (text : List Char) :
    (text.flatMap upper).count k = text.count k := by
  induction text with
  | nil => rfl
  | cons c rest ih =>
      rw [List.flatMap_cons, List.count_append, ih, List.count_cons]
      by_cases here : c = k
      · rw [here, root.mark mark, List.count_singleton_self, beq_self_eq_true, if_pos rfl,
          Nat.add_comm]
      · rw [List.count_eq_zero_of_not_mem ((root.fixed mark).not_mem here), if_neg (by simpa),
          Nat.zero_add, Nat.add_zero]

theorem contains_upper {k : Char} (mark : IsMark k) (text : List Char) :
    (text.flatMap upper).contains k = text.contains k := by
  have same := root.count_upper mark text
  rw [Bool.eq_iff_iff, List.contains_iff_mem, List.contains_iff_mem, ← List.count_pos_iff,
    ← List.count_pos_iff, same]

/-- A lexeme is of the same kind in upper case, as far as no word is concerned. -/
theorem kindOf_upper (isReserved : Bool) (text : List Char) :
    kindOf (fun _ => isReserved) (text.flatMap upper) = kindOf (fun _ => isReserved) text := by
  cases text with
  | nil => rfl
  | cons c rest =>
      have dash : IsMark '-' := by decide
      have quote : IsMark '\x27' := by decide
      have bracket : IsMark ']' := by decide
      by_cases mark : IsMark c
      · rw [List.flatMap_cons, root.mark mark, List.singleton_append]
        simp only [kindOf, root.looking_one (root.stable_beq dash), root.looking_comment,
          root.looking_one (root.stable_beq quote), root.count_upper mark,
          root.contains_upper bracket]
      · rcases List.exists_cons_of_ne_nil (root.ne_nil c) with ⟨d, more, split⟩
        have same : classOf d = classOf c :=
          root.classOf_eq (by rw [split]; exact List.mem_cons_self)
        rw [List.flatMap_cons, split, List.cons_append]
        by_cases letter : classOf c = .letter
        · rw [letter] at same
          simp only [kindOf, same, letter]
        · have ex : classOf c = .ex := by
            by_contra other
            exact mark (isMark_of_classOf letter other)
          have near : c.toNat < 128 := by
            apply Nat.lt_of_not_le
            intro far
            exact letter (classOf_beyond far)
          rw [root.ascii c near, List.cons.injEq] at split
          rw [ex] at same
          rw [← split.2]
          simp only [kindOf, same, ex, List.nil_append, root.looking_one (root.stable_beq quote)]

theorem kindOf_upper_quoted (reserved : List Char → Bool) {text : List Char}
    (quoted : isUnquoted text = false) :
    kindOf reserved (text.flatMap upper) = kindOf reserved text := by
  have here : kindOf reserved (text.flatMap upper) =
      kindOf (fun _ => reserved (text.flatMap upper)) (text.flatMap upper) := by
    cases text.flatMap upper <;> rfl
  rw [here, root.kindOf_upper]
  exact kindOf_quoted quoted _ _

theorem kindOf_upper_unquoted (reserved : List Char → Bool) {text : List Char}
    (unquoted : isUnquoted text = true) :
    kindOf reserved (text.flatMap upper) =
      if reserved (text.flatMap upper) then .keyword else .identifier := by
  have here : kindOf reserved (text.flatMap upper) =
      kindOf (fun _ => reserved (text.flatMap upper)) (text.flatMap upper) := by
    cases text.flatMap upper <;> rfl
  rw [here, root.kindOf_upper]
  exact kindOf_unquoted unquoted _

end RootCase

/-- A token in upper case. -/
def Token.inUpper (reserved : List Char → Bool) (upper : Char → List Char) (token : Token) :
    Token :=
  ⟨kindOf reserved (token.text.flatMap upper), token.text.flatMap upper⟩

namespace RootCase

variable {upper : Char → List Char} (root : RootCase upper) (reserved : List Char → Bool)
include root

theorem blank_upper (text : List Char) :
    kindOf reserved (text.flatMap upper) = .blank ↔ kindOf reserved text = .blank := by
  cases unquoted : isUnquoted text with
  | false => rw [root.kindOf_upper_quoted reserved unquoted]
  | true =>
      rw [root.kindOf_upper_unquoted reserved unquoted, kindOf_unquoted unquoted]
      constructor
      · intro blank
        split at blank <;> cases blank
      · intro blank
        split at blank <;> cases blank

/-- The tokens of a statement in upper case are those of the statement, in upper case. -/
theorem tokens_upper (text : List Char) :
    tokens reserved (text.flatMap upper) =
      (tokens reserved text).map (Token.inUpper reserved upper) := by
  have zero : IsMark '\x00' := by decide
  have notZero : Stable upper (· != '\x00') := by
    intro c d inside
    exact congrArg not (root.stable_beq zero c d inside)
  have prefixes : (text.flatMap upper).takeWhile (· != '\x00') =
      (text.takeWhile (· != '\x00')).flatMap upper :=
    congrArg Prod.fst (follows_run root.ne_nil notZero text)
  rw [tokens, tokens, prefixes, root.lexemes_upper, List.map_map, List.filter_map, List.filter_map,
    List.map_map]
  have same : ((fun token : Token => token.kind != .blank) ∘
        (fun lexeme => Token.mk (kindOf reserved lexeme) lexeme) ∘ List.flatMap upper) =
      (fun token : Token => token.kind != .blank) ∘
        fun lexeme => Token.mk (kindOf reserved lexeme) lexeme := by
    funext lexeme
    exact congrArg not (Bool.eq_iff_iff.mpr
      (by rw [beq_iff_eq, beq_iff_eq]; exact root.blank_upper reserved lexeme))
  rw [same]
  rfl

/-- A token is still the same in upper case if and only if it does not depend on case. -/
theorem sameToken_iff {token : Token} (kind : token.kind = kindOf reserved token.text) :
    SameToken upper token (token.inUpper reserved upper) ↔ CaseBlind reserved upper token := by
  have texts : (if token.isName then
        token.text.flatMap upper = (token.inUpper reserved upper).text.flatMap upper
      else token.text = (token.inUpper reserved upper).text) ↔
      (token.isName = false → ∀ c ∈ token.text, upper c = [c]) := by
    cases name : token.isName with
    | true => simp [Token.inUpper, root.upper_upper]
    | false =>
        simp only [Token.inUpper, Bool.false_eq_true, if_false, forall_true_left]
        rw [eq_comm]
        exact flatMap_eq_self_iff root.ne_nil token.text
  have kinds : token.kind = (token.inUpper reserved upper).kind ↔
      (isUnquoted token.text = true →
        reserved (token.text.flatMap upper) = reserved token.text) := by
    rw [kind, Token.inUpper]
    dsimp only
    cases unquoted : isUnquoted token.text with
    | false => simp [root.kindOf_upper_quoted reserved unquoted]
    | true =>
        rw [root.kindOf_upper_unquoted reserved unquoted, kindOf_unquoted unquoted]
        cases reserved token.text <;> cases reserved (token.text.flatMap upper) <;> simp
  rw [SameToken, texts, kinds]
  constructor
  · rintro ⟨word, plain⟩
    exact ⟨plain, word⟩
  · rintro ⟨plain, word⟩
    exact ⟨word, plain⟩

omit root in
theorem kind_of_mem {text : List Char} {token : Token} (member : token ∈ tokens reserved text) :
    token.kind = kindOf reserved token.text := by
  rw [tokens, List.mem_filter, List.mem_map] at member
  rcases member with ⟨⟨lexeme, -, same⟩, -⟩
  rw [← same]

/-- A statement in upper case is the same statement if and only if none of its tokens
depends on case. -/
theorem sameStatement_iff (text : List Char) :
    SameStatement reserved upper text (text.flatMap upper) ↔
      ∀ token ∈ tokens reserved text, CaseBlind reserved upper token := by
  rw [SameStatement, root.tokens_upper, List.forall₂_map_right_iff, List.forall₂_same]
  constructor
  · intro same token member
    exact (root.sameToken_iff reserved (kind_of_mem reserved member)).mp (same token member)
  · intro blind token member
    exact (root.sameToken_iff reserved (kind_of_mem reserved member)).mpr (blind token member)

end RootCase

end Sql
end ModuleDatabase
