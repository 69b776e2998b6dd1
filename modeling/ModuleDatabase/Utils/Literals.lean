import Mathlib.Algebra.BigOperators.Group.List.Basic
import Mathlib.Algebra.Order.Ring.Nat
import Mathlib.Data.List.Flatten
import Mathlib.Data.List.TakeWhile
import ModuleDatabase.Sql.Lexer
import ModuleDatabase.Utils.ModuleDBSqlUtils

namespace ModuleDatabase
namespace ModuleDBSqlUtils

open Scanner

/-!
# Lists of string literals

The text of an array is meant as a list of string literals.  A literal is a
token between quotes, in which a doubled quote stands for one; reading the list
is reading the tokens and the commas between them.

The elements are put between quotes as they are.  A quote in one is read as the
end of a literal, or two as one, and a zero character ends the statement; the
lengths of the tokens show that nothing else goes wrong and that these always
do.  The text of a list is that of the array but for the first character.
-/

/-! ## Reading literals -/

/-- What a literal stands for, behind its opening quote. -/
def closeLiteral : List Char → Option (List Char)
  | [] => none
  | [c] => if c = '\x27' then some [] else none
  | c :: d :: rest =>
      if c = '\x27' then
        if d = '\x27' then (closeLiteral rest).map ('\x27' :: ·) else none
      else (closeLiteral (d :: rest)).map (c :: ·)

/-- What a string literal stands for. -/
def literalOf (token : Sql.Token) : Option (List Char) :=
  if token.kind = .string then closeLiteral token.text.tail else none

/-- The values of literals with commas between them. -/
def readLiterals : List Sql.Token → Option (List (List Char))
  | [] => none
  | [token] => (literalOf token).map ([·])
  | token :: comma :: others =>
      if comma.text = [','] then
        (literalOf token).bind fun value => (readLiterals others).map (value :: ·)
      else none

/-- A text between quotes, as it is. -/
def literal (value : List Char) : List Char := '\x27' :: (value ++ ['\x27'])

/-- A text that is a literal between quotes. -/
def Unquoted (value : List Char) : Prop := '\x27' ∉ value ∧ '\x00' ∉ value

theorem closeLiteral_free {value : List Char} (free : '\x27' ∉ value) :
    closeLiteral (value ++ ['\x27']) = some value := by
  induction value with
  | nil => simp [closeLiteral]
  | cons c rest ih =>
      rw [List.mem_cons, not_or] at free
      have later := ih free.2
      cases rest with
      | nil => simp [closeLiteral, Ne.symm free.1]
      | cons d more => simpa [closeLiteral, Ne.symm free.1] using later

/-- Every quote in a value takes two characters. -/
theorem length_closeLiteral {text value : List Char} (reads : closeLiteral text = some value) :
    text.length = value.length + value.count '\x27' + 1 := by
  induction text using closeLiteral.induct generalizing value with
  | case1 => cases reads
  | case2 =>
      cases reads
      rfl
  | case3 c other => simp [closeLiteral, other] at reads
  | case4 rest ih =>
      rw [closeLiteral, if_pos rfl, if_pos rfl] at reads
      rcases Option.map_eq_some_iff.mp reads with ⟨inside, here, same⟩
      have shorter := ih here
      simp [← same, shorter]
      omega
  | case5 d rest other => simp [closeLiteral, other] at reads
  | case6 c d rest other ih =>
      rw [closeLiteral, if_neg other] at reads
      rcases Option.map_eq_some_iff.mp reads with ⟨inside, here, same⟩
      have shorter := ih here
      simp [← same, shorter, List.count_cons_of_ne other]
      omega

/-- Every value takes its quotes, and every further one a comma. -/
theorem length_readLiterals {tokens : List Sql.Token} {values : List (List Char)}
    (reads : readLiterals tokens = some values) :
    (tokens.map fun token => token.text.length).sum + 1 =
      (values.map fun value => value.length + value.count '\x27' + 3).sum := by
  have one : ∀ {token : Sql.Token} {value : List Char}, literalOf token = some value →
      token.text.length = value.length + value.count '\x27' + 2 := by
    intro token value here
    rw [literalOf] at here
    split at here
    · have inside := length_closeLiteral here
      rw [List.length_tail] at inside
      omega
    · cases here
  induction tokens using readLiterals.induct generalizing values with
  | case1 => cases reads
  | case2 token =>
      rcases Option.map_eq_some_iff.mp reads with ⟨value, here, same⟩
      simp [← same, one here]
  | case3 token comma others isComma ih =>
      rw [readLiterals, if_pos isComma] at reads
      rcases Option.bind_eq_some_iff.mp reads with ⟨value, here, more⟩
      rcases Option.map_eq_some_iff.mp more with ⟨later, there, same⟩
      have behind := ih there
      simp [← same, ← behind, one here, isComma]
      omega
  | case4 token comma others isComma => simp [readLiterals, isComma] at reads

/-! ## The tokens of literals -/

theorem follow_literal {value : List Char} (free : '\x27' ∉ value) :
    Sql.follow '\x27' (value ++ ['\x27']) = (value ++ ['\x27'], []) ∧
      ∀ rest, Sql.follow '\x27' (value ++ '\x27' :: ',' :: rest) =
        (value ++ ['\x27'], ',' :: rest) := by
  have quotes : Sql.follow '\x27' = quoted '\x27' := rfl
  rw [quotes]
  constructor
  · rw [quoted_append free]
    rfl
  · intro rest
    rw [quoted_append free]
    simp [quoted]

theorem lexemes_literals {values : List (List Char)} (free : ∀ value ∈ values, '\x27' ∉ value) :
    lexemes Sql.follow ([','].intercalate (values.map literal)) =
      (values.map literal).intersperse [','] := by
  induction values with
  | nil => rfl
  | cons value others ih =>
      have inside := follow_literal (free value List.mem_cons_self)
      have later := ih fun other member => free other (List.mem_cons_of_mem value member)
      cases others with
      | nil =>
          simp [literal, lexemes_cons Sql.splits_follow, inside.1]
          rfl
      | cons other more =>
          have comma : ∀ rest, Sql.follow ',' rest = ([], rest) := fun rest => rfl
          simp only [List.map_cons, List.intercalate_cons_cons] at later ⊢
          simpa [literal, lexemes_cons Sql.splits_follow, inside.2, comma] using later

theorem kindOf_literal (reserved : List Char → Bool) {value : List Char}
    (free : '\x27' ∉ value) : Sql.kindOf reserved (literal value) = .string := by
  have once : (value ++ ['\x27']).count '\x27' = 1 := by simp [List.count_eq_zero.mpr free]
  have quotes : Sql.classOf '\x27' = .quote := rfl
  simp [literal, Sql.kindOf, once, quotes]

theorem literalOf_literal {value : List Char} (free : '\x27' ∉ value) :
    literalOf ⟨.string, literal value⟩ = some value := by
  simp [literalOf, literal, closeLiteral_free free]

/-- A statement without a zero character is read to its end. -/
theorem tokens_of_free (reserved : List Char → Bool) {text : List Char} (free : '\x00' ∉ text) :
    Sql.tokens reserved text = ((lexemes Sql.follow text).map fun lexeme =>
      Sql.Token.mk (Sql.kindOf reserved lexeme) lexeme).filter
        fun token => token.kind != .blank := by
  have whole : text.takeWhile (· != '\x00') = text := by
    rw [List.takeWhile_eq_self_iff]
    intro c member
    simpa using fun same : c = '\x00' => free (same ▸ member)
  rw [Sql.tokens, whole]

theorem zero_mem_literals (values : List (List Char)) :
    '\x00' ∈ [','].intercalate (values.map literal) ↔ ∃ value ∈ values, '\x00' ∈ value := by
  have one : ∀ value, '\x00' ∈ literal value ↔ '\x00' ∈ value := by
    intro value
    simp [literal]
  induction values with
  | nil => simp
  | cons value others ih =>
      cases others with
      | nil => simp [one]
      | cons other more =>
          simp only [List.map_cons, List.intercalate_cons_cons] at ih ⊢
          simp [one, ih]

theorem length_literals {values : List (List Char)} (filled : values ≠ []) :
    ([','].intercalate (values.map literal)).length + 1 =
      (values.map fun value => value.length + 3).sum := by
  induction values with
  | nil => exact absurd rfl filled
  | cons value others ih =>
      cases others with
      | nil => simp [literal]
      | cons other more =>
          have later := ih (List.cons_ne_nil _ _)
          simp only [List.map_cons, List.intercalate_cons_cons, List.sum_cons,
            List.length_append] at later ⊢
          rw [← later]
          simp [literal]
          omega

/-- Literals of texts without quotes are read as these. -/
theorem readLiterals_literals (reserved : List Char → Bool) {values : List (List Char)}
    (filled : values ≠ []) (unquoted : ∀ value ∈ values, Unquoted value) :
    readLiterals (Sql.tokens reserved ([','].intercalate (values.map literal))) = some values := by
  have visible : '\x00' ∉ [','].intercalate (values.map literal) := by
    rw [zero_mem_literals]
    rintro ⟨value, member, inside⟩
    exact (unquoted value member).2 inside
  rw [tokens_of_free reserved visible,
    lexemes_literals fun value member => (unquoted value member).1]
  clear visible
  induction values with
  | nil => exact absurd rfl filled
  | cons value others ih =>
      have free := (unquoted value List.mem_cons_self).1
      cases others with
      | nil => simp [kindOf_literal reserved free, readLiterals, literalOf_literal free]
      | cons other more =>
          have later := ih (List.cons_ne_nil _ _)
            fun other member => unquoted other (List.mem_cons_of_mem value member)
          have comma : Sql.kindOf reserved [','] = .other := rfl
          simpa [kindOf_literal reserved free, readLiterals, literalOf_literal free, comma]
            using later

/-- The tokens are no longer than the text up to its first zero character. -/
theorem length_tokens_le (reserved : List Char → Bool) (text : List Char) :
    ((Sql.tokens reserved text).map fun token => token.text.length).sum ≤
      (text.takeWhile (· != '\x00')).length := by
  have sublist : ((Sql.tokens reserved text).map Sql.Token.text).Sublist
      (lexemes Sql.follow (text.takeWhile (· != '\x00'))) := by
    have kept := (List.filter_sublist (p := fun token => token.kind != .blank)
      (l := (lexemes Sql.follow (text.takeWhile (· != '\x00'))).map fun lexeme =>
        Sql.Token.mk (Sql.kindOf reserved lexeme) lexeme)).map Sql.Token.text
    rw [List.map_map] at kept
    simpa [Sql.tokens, Function.comp_def] using kept
  have shorter := sublist.flatten.length_le
  rw [flatten_lexemes Sql.splits_follow, List.length_flatten, List.map_map] at shorter
  exact shorter

/-- Only texts without quotes and zero characters are read as they are. -/
theorem unquoted_of_reads (reserved : List Char → Bool) {values : List (List Char)}
    (filled : values ≠ [])
    (reads : readLiterals (Sql.tokens reserved ([','].intercalate (values.map literal))) =
      some values) : ∀ value ∈ values, Unquoted value := by
  have sizes := length_readLiterals reads
  have bound := length_tokens_le reserved ([','].intercalate (values.map literal))
  have whole := length_literals filled
  have cut := List.takeWhile_prefix (· != '\x00') (l := [','].intercalate (values.map literal))
  have quotes : (values.map fun value => value.length + value.count '\x27' + 3).sum =
      (values.map fun value => value.length + 3).sum +
        (values.map fun value => value.count '\x27').sum := by
    rw [← List.sum_map_add]
    congr 2
    funext value
    omega
  have shorter := cut.length_le
  have noQuotes : (values.map fun value => value.count '\x27').sum = 0 := by omega
  have kept := cut.eq_of_length (by omega)
  intro value member
  constructor
  · have unquoted : value.count '\x27' = 0 :=
      List.sum_eq_zero_iff_forall_eq_nat.mp noQuotes _ (List.mem_map_of_mem member)
    exact List.count_eq_zero.mp unquoted
  · intro inside
    have there := (zero_mem_literals values).mpr ⟨value, member, inside⟩
    exact absurd (List.takeWhile_eq_self_iff.mp kept _ there) (by decide)

/-! ## What is built -/

/-- Behind its first character, the text of an array or of a list. -/
def closed (strings : List String) : List Char :=
  ",'".toList.intercalate (strings.map fun string => string.toList ++ ['\x27'])

theorem buildStringWithStrArray_eq {strings : List String} (filled : strings ≠ []) :
    buildStringWithStrArray (strings.map some) =
      some (String.ofList ('\x27' :: closed strings)) := by
  have loop : (strings.map some).foldl (fun builder arr =>
      StringBuilder.append (StringBuilder.append builder (textOf arr)) "','") ['\x27'] =
      '\x27' :: closed strings ++ [',', '\x27'] := by
    have ending := intercalate_ending filled String.toList ['\x27'] ",'".toList
    rw [closed, ending, List.foldl_map]
    exact (foldl_trailing filled String.toList "','".toList ['\x27']).trans (by simp)
  have built : buildStringWithStrArray (strings.map some) = some (String.ofList
      (StringBuilder.delete ('\x27' :: closed strings ++ [',', '\x27'])
        (('\x27' :: closed strings ++ [',', '\x27']).length - 2)
        ('\x27' :: closed strings ++ [',', '\x27']).length)) := by
    rw [← loop]
    simp [buildStringWithStrArray, filled]
  rw [built]
  simp [StringBuilder.delete]

theorem buildStringWithList_eq {list : List String} (filled : list ≠ []) :
    buildStringWithList (some list) = some (String.ofList (',' :: closed list)) := by
  have loop : forEachIndexed list ",".toList (fun index s builder =>
      StringBuilder.append (StringBuilder.append builder (toString s))
        (if index = list.length - 1 then "'" else "','")) = ",".toList ++ closed list := by
    apply forEachIndexed_separated
    intro index s builder
    have same : toString s = s := rfl
    split
    · simp [StringBuilder.append, same]
    · simp [StringBuilder.append, same]
  simp only [buildStringWithList, List.isEmpty_iff, if_neg filled, loop]
  rfl

example : buildStringWithList (some ["a", "b"]) = some ",a','b'" := by decide

theorem closed_literals {strings : List String} (filled : strings ≠ []) :
    '\x27' :: closed strings = [','].intercalate ((strings.map String.toList).map literal) := by
  have opening := intercalate_opening filled (fun string : String => string.toList ++ ['\x27'])
    ['\x27'] [',']
  rw [List.map_map]
  exact opening.symm

/-! ## Arrays of strings -/

/-- The text of an array is read as its elements. -/
def ReadsBack (reserved : List Char → Bool) (strings : List String) : Prop :=
  ∃ text, buildStringWithStrArray (strings.map some) = some text ∧
    readLiterals (Sql.tokens reserved text.toList) = some (strings.map String.toList)

theorem readsBack_iff_reads (reserved : List Char → Bool) {strings : List String}
    (filled : strings ≠ []) : ReadsBack reserved strings ↔
      readLiterals (Sql.tokens reserved
        ([','].intercalate ((strings.map String.toList).map literal))) =
          some (strings.map String.toList) := by
  rw [ReadsBack, buildStringWithStrArray_eq filled, closed_literals filled]
  simp

/-- An array is read back exactly if none of its elements holds a quote or a zero character; and
of such arrays no two have the same text. -/
theorem readsBack_iff (reserved : List Char → Bool) {strings : List String}
    (filled : strings ≠ []) :
    (ReadsBack reserved strings ↔ ∀ string ∈ strings, Unquoted string.toList) ∧
      ((∀ string ∈ strings, Unquoted string.toList) → ∀ others : List String,
        (∀ string ∈ others, Unquoted string.toList) →
        buildStringWithStrArray (others.map some) = buildStringWithStrArray (strings.map some) →
        others = strings) := by
  have nonempty : ∀ {strings : List String}, strings ≠ [] → strings.map String.toList ≠ [] :=
    fun filled noLiterals => filled (List.map_eq_nil_iff.mp noLiterals)
  have readsIff : ∀ {strings : List String}, strings ≠ [] →
      (ReadsBack reserved strings ↔ ∀ string ∈ strings, Unquoted string.toList) := by
    intro strings filled
    rw [readsBack_iff_reads reserved filled]
    constructor
    · intro reads string member
      exact unquoted_of_reads reserved (nonempty filled) reads _ (List.mem_map_of_mem member)
    · intro unquoted
      exact readLiterals_literals reserved (nonempty filled) (List.forall_mem_map.mpr unquoted)
  refine ⟨readsIff filled, ?_⟩
  intro unquoted others also same
  have othersFilled : others ≠ [] := by
    rintro rfl
    rw [buildStringWithStrArray_eq filled] at same
    cases same
  rcases (readsIff filled).mpr unquoted with ⟨text, builds, reads⟩
  rcases (readsIff othersFilled).mpr also with ⟨text', builds', reads'⟩
  rw [builds, builds', Option.some.injEq] at same
  rw [same, reads, Option.some.injEq] at reads'
  have injective : Function.Injective String.toList := fun _ _ => String.toList_injective
  exact (List.map_injective_iff.mpr injective reads').symm

theorem readsBack_iff_two :
    (ReadsBack (fun _ => false) ["a", "b,c"] ↔ ∀ string ∈ ["a", "b,c"], Unquoted string.toList) ∧
      ((∀ string ∈ ["a", "b,c"], Unquoted string.toList) → ∀ others : List String,
        (∀ string ∈ others, Unquoted string.toList) →
        buildStringWithStrArray (others.map some) =
          buildStringWithStrArray (["a", "b,c"].map some) →
        others = ["a", "b,c"]) :=
  readsBack_iff (fun _ => false) (List.cons_ne_nil _ _)

/-- One element is read as two, and has the text of two. -/
theorem not_readsBack_quotes : ¬ ReadsBack (fun _ => false) ["a','b"] ∧
    buildStringWithStrArray (["a','b"].map some) =
      buildStringWithStrArray (["a", "b"].map some) := by
  constructor
  · rintro ⟨text, builds, reads⟩
    have built : buildStringWithStrArray (["a','b"].map some) = some "'a','b'" := by decide
    rw [built] at builds
    rw [← Option.some.inj builds] at reads
    exact absurd reads (by decide +kernel)
  · decide

/-! ## Lists -/

/-- The text of a list begins with a comma, where that of the array has a quote. -/
theorem buildStringWithList_ne {list : List String} (filled : list ≠ []) :
    buildStringWithList (some list) ≠ buildStringWithStrArray (list.map some) := by
  rw [buildStringWithList_eq filled, buildStringWithStrArray_eq filled]
  intro same
  have characters := congrArg String.toList (Option.some.inj same)
  simp at characters

theorem buildStringWithList_ne_one :
    buildStringWithList (some ["a"]) ≠ buildStringWithStrArray (["a"].map some) :=
  buildStringWithList_ne (List.cons_ne_nil _ _)

/-- The list has the text `,a'`. -/
theorem not_buildStringWithList_agrees :
    ¬ ∀ list : List String, list ≠ [] →
      buildStringWithList (some list) = buildStringWithStrArray (list.map some) := by
  intro agrees
  exact absurd (agrees ["a"] (List.cons_ne_nil _ _)) (by decide)

end ModuleDBSqlUtils
end ModuleDatabase
