import Mathlib.Data.List.Infix

namespace ModuleDatabase

/-!
# Texts as lists of characters

Texts of a program are `String`s.  What is decided about them here is decided
on their characters: a comparison that ignores the case of ASCII letters, the
occurrence of one text inside another, and the shape of an identifier.

`sameIgnoringCase` compares with a text of ASCII characters the way Java
does.  A character outside ASCII counts as a letter there if one of its case
forms is that letter, which holds of four characters only.
-/

namespace Text

/-- The text with its ASCII letters in lower case. -/
def fold (text : String) : String := String.ofList (text.toList.map Char.toLower)

/-- Whether a list of characters occurs in another. -/
def occursIn (pattern : List Char) : List Char → Bool
  | [] => pattern.isEmpty
  | c :: rest => pattern.isPrefixOf (c :: rest) || occursIn pattern rest

/-- `text.contains(pattern)`. -/
def contains (text pattern : String) : Bool := occursIn pattern.toList text.toList

/-- `TextUtils.join(separator, texts)`. -/
def join (separator : String) (texts : List String) : String := separator.intercalate texts

/-- `text.split(separator)`. -/
def split (separator : Char) (text : String) : List String :=
  (text.toList.splitOn separator).map String.ofList

/-- `text.startsWith(beginning)`. -/
def startsWith (text beginning : String) : Bool := beginning.toList.isPrefixOf text.toList

/-- A character as a comparison with an ASCII text sees it that ignores case. -/
def foldJava (c : Char) : Char :=
  if c = 'İ' ∨ c = 'ı' then 'i' else if c = 'ſ' then 's' else if c = '\u212a' then 'k'
  else c.toLower

/-- `text.equals(ascii, ignoreCase = true)`. -/
def sameIgnoringCase (text ascii : String) : Bool :=
  text.toList.map foldJava == ascii.toList.map foldJava

/-- `text.endsWith(ascii, ignoreCase = true)`. -/
def endsWithIgnoringCase (text ascii : String) : Bool :=
  (ascii.toList.map foldJava).isSuffixOf (text.toList.map foldJava)

/-- A character of a plain name. -/
def isWordChar (c : Char) : Bool := c.isAlphanum || c == '_'

/-- A name that needs no quotes: letters, digits and underscores, not
beginning with a digit. -/
def isWord (text : String) : Bool :=
  text.toList.all isWordChar && text.toList.head?.any fun c => !c.isDigit

/-! ## Folding -/

theorem toList_fold (text : String) : (fold text).toList = text.toList.map Char.toLower := by
  rw [fold, String.toList_ofList]

theorem fold_append (first second : String) : fold (first ++ second) = fold first ++ fold second := by
  apply String.toList_inj.mp
  rw [String.toList_append, toList_fold, toList_fold, toList_fold, String.toList_append,
    List.map_append]

/-- Names that differ still differ behind a common ending. -/
theorem fold_append_inj {first second ending : String} :
    fold (first ++ ending) = fold (second ++ ending) ↔ fold first = fold second := by
  rw [fold_append, fold_append]
  constructor
  · intro same
    have lists := congrArg String.toList same
    rw [String.toList_append, String.toList_append] at lists
    exact String.toList_inj.mp (List.append_cancel_right lists)
  · intro same
    rw [same]

/-! ## Occurrence -/

theorem occursIn_iff (pattern text : List Char) :
    occursIn pattern text = true ↔ pattern <:+: text := by
  induction text with
  | nil =>
      rw [occursIn, List.isEmpty_iff, List.infix_nil]
  | cons c rest ih =>
      rw [occursIn, Bool.or_eq_true, ih, List.isPrefixOf_iff_prefix, List.infix_cons_iff]

theorem contains_append (before pattern behind : String) :
    contains (before ++ pattern ++ behind) pattern = true := by
  rw [contains, occursIn_iff, String.toList_append, String.toList_append]
  exact ⟨before.toList, behind.toList, rfl⟩

/-! ## Joining and splitting -/

/-- Splitting undoes joining, if no text contains the separator. -/
theorem split_join {separator : Char} {texts : List String} (nonempty : texts ≠ [])
    (free : ∀ text ∈ texts, separator ∉ text.toList) :
    split separator (join (String.ofList [separator]) texts) = texts := by
  have lists : texts.map String.toList ≠ [] := fun empty =>
    nonempty (List.map_eq_nil_iff.mp empty)
  have apart : ∀ chars ∈ texts.map String.toList, separator ∉ chars := by
    intro chars member
    rcases List.mem_map.mp member with ⟨text, inside, same⟩
    rw [← same]
    exact free text inside
  rw [split, join, String.toList_intercalate, String.toList_ofList,
    List.splitOn_intercalate separator apart lists, List.map_map]
  have undone : String.ofList ∘ String.toList = id := by
    funext text
    exact String.ofList_toList
  rw [undone, List.map_id]

/-- In a joined text a character is in a part or in a separator. -/
theorem mem_join {separator : String} {texts : List String} {c : Char}
    (member : c ∈ (join separator texts).toList) :
    c ∈ separator.toList ∨ ∃ text ∈ texts, c ∈ text.toList := by
  induction texts with
  | nil =>
      rw [join, String.intercalate_nil] at member
      cases member
  | cons text rest ih =>
      cases rest with
      | nil =>
          rw [join, String.intercalate_singleton] at member
          exact Or.inr ⟨text, List.mem_cons_self, member⟩
      | cons other others =>
          rw [join, String.intercalate_cons_cons, String.toList_append, String.toList_append,
            List.mem_append, List.mem_append] at member
          rcases member with (inside | inside) | inside
          · exact Or.inr ⟨text, List.mem_cons_self, inside⟩
          · exact Or.inl inside
          · rcases ih inside with apart | ⟨part, among, within⟩
            · exact Or.inl apart
            · exact Or.inr ⟨part, List.mem_cons_of_mem _ among, within⟩

/-- What stands before the first separator is determined. -/
theorem eq_of_append_cons {separator : Char} {first second behind rest : List Char}
    (freeFirst : separator ∉ first) (freeSecond : separator ∉ second)
    (same : first ++ separator :: behind = second ++ separator :: rest) : first = second := by
  induction first generalizing second with
  | nil =>
      cases second with
      | nil => rfl
      | cons d others =>
          rw [List.nil_append, List.cons_append, List.cons.injEq] at same
          rw [same.1] at freeSecond
          exact absurd List.mem_cons_self freeSecond
  | cons c rest ih =>
      rw [List.mem_cons, not_or] at freeFirst
      cases second with
      | nil =>
          rw [List.nil_append, List.cons_append, List.cons.injEq] at same
          exact absurd same.1.symm freeFirst.1
      | cons d others =>
          rw [List.mem_cons, not_or] at freeSecond
          rw [List.cons_append, List.cons_append, List.cons.injEq] at same
          rw [same.1, ih freeFirst.2 freeSecond.2 same.2]

/-! ## Words -/

/-- A word followed by a word character or more is still a word. -/
theorem isWord_append {text ending : String} (word : isWord text = true)
    (chars : ending.toList.all isWordChar = true) : isWord (text ++ ending) = true := by
  rw [isWord, Bool.and_eq_true] at word ⊢
  rw [String.toList_append, List.all_append, word.1, chars]
  refine ⟨rfl, ?_⟩
  cases characters : text.toList with
  | nil =>
      rw [characters] at word
      cases word.2
  | cons c rest =>
      rw [characters] at word
      exact word.2

/-- On the characters of a word the two ways to ignore case agree. -/
theorem foldJava_eq {c : Char} (word : isWordChar c = true) : foldJava c = c.toLower := by
  have ordinary : ∀ special, isWordChar special = false → c ≠ special := by
    intro special other same
    rw [same, other] at word
    cases word
  have dotted := ordinary 'İ' (by decide)
  have dotless := ordinary 'ı' (by decide)
  have long := ordinary 'ſ' (by decide)
  have kelvin := ordinary '\u212a' (by decide)
  rw [foldJava, if_neg (not_or.mpr ⟨dotted, dotless⟩), if_neg long, if_neg kelvin]

theorem map_foldJava {text : String} (chars : text.toList.all isWordChar = true) :
    text.toList.map foldJava = text.toList.map Char.toLower := by
  apply List.map_congr_left
  intro c member
  exact foldJava_eq (List.all_eq_true.mp chars c member)

theorem isWord_ne_empty {text : String} (word : isWord text = true) : text ≠ "" := by
  intro empty
  rw [empty] at word
  revert word
  decide

theorem toNat_of_isWordChar {c : Char} (word : isWordChar c = true) : c.toNat < 128 := by
  unfold isWordChar Char.isAlphanum Char.isAlpha Char.isUpper Char.isLower Char.isDigit at word
  simp only [Bool.or_eq_true, Bool.and_eq_true, decide_eq_true_eq, beq_iff_eq] at word
  rcases word with (((⟨-, upper⟩ | ⟨-, lower⟩) | ⟨-, digit⟩) | same)
  · exact Nat.lt_of_le_of_lt upper (by decide)
  · exact Nat.lt_of_le_of_lt lower (by decide)
  · exact Nat.lt_of_le_of_lt digit (by decide)
  · rw [same]
    decide

/-- What holds of the first 128 characters holds of every ASCII character. -/
theorem forall_ascii {p : Char → Prop} (all : ∀ n : Fin 128, p (Char.ofNat n)) {c : Char}
    (ascii : c.toNat < 128) : p c := by
  have here := all ⟨c.toNat, ascii⟩
  rwa [Char.ofNat_toNat] at here

theorem isWordChar_toLower {c : Char} (word : isWordChar c = true) :
    isWordChar c.toLower = true := by
  have all : ∀ n : Fin 128, isWordChar (Char.ofNat n) = true →
      isWordChar (Char.ofNat n).toLower = true := by decide +kernel
  exact forall_ascii (p := fun c => isWordChar c = true → isWordChar c.toLower = true) all
    (toNat_of_isWordChar word) word

theorem isAlpha_of_isUpper {c : Char} (upper : c.isUpper = true) : c.isAlpha = true := by
  change (c.isUpper || c.isLower) = true
  rw [upper, Bool.true_or]

/-- A character with a plain lower case is plain. -/
theorem isWordChar_of_toLower {c : Char} (word : isWordChar c.toLower = true) :
    isWordChar c = true := by
  by_cases upper : c.isUpper = true
  · rw [isWordChar, Char.isAlphanum, isAlpha_of_isUpper upper, Bool.true_or, Bool.true_or]
  · have outside : ¬ (c.val ≥ 'A'.val ∧ c.val ≤ 'Z'.val) := by
      exact fun bounds => upper (decide_eq_true bounds)
    have same : c.toLower = c := dif_neg outside
    rwa [same] at word

/-- What folds like a plain text is the same text for Java. -/
theorem sameIgnoringCase_of_fold {text ascii : String}
    (chars : ascii.toList.all isWordChar = true) (same : fold text = fold ascii) :
    sameIgnoringCase text ascii = true := by
  have lists := congrArg String.toList same
  rw [toList_fold, toList_fold] at lists
  have word : text.toList.all isWordChar = true := by
    apply List.all_eq_true.mpr
    intro c member
    apply isWordChar_of_toLower
    have lower : c.toLower ∈ ascii.toList.map Char.toLower := by
      rw [← lists]
      exact List.mem_map_of_mem member
    rcases List.mem_map.mp lower with ⟨d, inside, folded⟩
    rw [← folded]
    exact isWordChar_toLower (List.all_eq_true.mp chars d inside)
  rw [sameIgnoringCase, map_foldJava chars, map_foldJava word, lists, beq_self_eq_true]

/-- What folds to a text with a plain ending has the ending. -/
theorem endsWithIgnoringCase_of_fold {text other ending : String}
    (chars : ending.toList.all isWordChar = true) (same : fold text = fold (other ++ ending)) :
    endsWithIgnoringCase text ending = true := by
  have lists := congrArg String.toList same
  rw [toList_fold, toList_fold, String.toList_append, List.map_append] at lists
  rcases List.map_eq_append_iff.mp lists with ⟨before, behind, split, -, folded⟩
  have alike : fold (String.ofList behind) = fold ending := by
    apply String.toList_inj.mp
    rw [toList_fold, toList_fold, String.toList_ofList, folded]
  have java := sameIgnoringCase_of_fold chars alike
  rw [sameIgnoringCase, beq_iff_eq, String.toList_ofList] at java
  rw [endsWithIgnoringCase, List.isSuffixOf_iff_suffix, split, List.map_append, java]
  exact List.suffix_append _ _

/-! ## Upper case -/

/-- The text with its ASCII letters in upper case. -/
def upper (text : String) : String := String.ofList (text.toList.map Char.toUpper)

theorem toList_upper (text : String) : (upper text).toList = text.toList.map Char.toUpper := by
  rw [upper, String.toList_ofList]

theorem upper_append (first second : String) :
    upper (first ++ second) = upper first ++ upper second := by
  apply String.toList_inj.mp
  rw [String.toList_append, toList_upper, toList_upper, toList_upper, String.toList_append,
    List.map_append]

theorem upper_join (separator : String) (texts : List String) :
    upper (join separator texts) = join (upper separator) (texts.map upper) := by
  induction texts with
  | nil =>
      rw [List.map_nil, join, join, String.intercalate_nil, String.intercalate_nil]
      rfl
  | cons text rest ih =>
      cases rest with
      | nil =>
          rw [List.map_singleton, join, join, String.intercalate_singleton,
            String.intercalate_singleton]
      | cons other others =>
          rw [join, join, List.map_cons] at ih
          rw [join, join, List.map_cons, List.map_cons, String.intercalate_cons_cons,
            String.intercalate_cons_cons, upper_append, upper_append, ih]

/-- A word in upper case is a word. -/
theorem isWord_upper {text : String} (word : isWord text = true) : isWord (upper text) = true := by
  rw [isWord, Bool.and_eq_true] at word ⊢
  have chars : ∀ c ∈ text.toList, isWordChar c.toUpper = true ∧
      (c.isDigit = false → c.toUpper.isDigit = false) := by
    intro c member
    have char := List.all_eq_true.mp word.1 c member
    have all : ∀ n : Fin 128, isWordChar (Char.ofNat n) = true →
        isWordChar (Char.ofNat n).toUpper = true ∧
          ((Char.ofNat n).isDigit = false → (Char.ofNat n).toUpper.isDigit = false) := by
      decide +kernel
    exact forall_ascii (p := fun c => isWordChar c = true → isWordChar c.toUpper = true ∧
      (c.isDigit = false → c.toUpper.isDigit = false)) all (toNat_of_isWordChar char) char
  rw [toList_upper]
  constructor
  · rw [List.all_map]
    exact List.all_eq_true.mpr fun c member => (chars c member).1
  · rw [List.head?_map]
    cases first : text.toList.head? with
    | none =>
        rw [first] at word
        cases word.2
    | some c =>
        rw [first, Option.any_some, Bool.not_eq_true'] at word
        rw [Option.map_some, Option.any_some, Bool.not_eq_true']
        exact (chars c (List.mem_of_head? first)).2 word.2

/-! ## Numbers -/

/-- Different numbers are written differently. -/
theorem toString_nat_inj {m n : Nat} (same : toString m = toString n) : m = n := by
  rw [Nat.toString_eq_repr, Nat.toString_eq_repr] at same
  have digits := congrArg String.toList same
  rw [Nat.toList_repr, Nat.toList_repr] at digits
  have value := congrArg (fun chars => Nat.ofDigitChars 10 chars 0) digits
  simpa only [Nat.ofDigitChars_ten_toDigits] using value

/-- A number is written with digits, behind a minus sign or not. -/
theorem toList_toString_int (n : Int) :
    (∃ k : Nat, n = k ∧ (toString n).toList = Nat.toDigits 10 k) ∨
      ∃ k : Nat, 0 < k ∧ n = -k ∧ (toString n).toList = '-' :: Nat.toDigits 10 k := by
  rw [Int.toString_eq_repr, Int.repr_eq_if]
  by_cases positive : 0 ≤ n
  · left
    refine ⟨n.toNat, (Int.toNat_of_nonneg positive).symm, ?_⟩
    rw [if_pos positive, Nat.toList_repr]
  · right
    refine ⟨(-n).toNat, by omega, by omega, ?_⟩
    rw [if_neg positive, String.toList_append, Nat.toList_repr]
    rfl

theorem toString_int_chars {n : Int} {c : Char} (member : c ∈ (toString n).toList) :
    c.isDigit = true ∨ c = '-' := by
  rcases toList_toString_int n with ⟨k, -, chars⟩ | ⟨k, -, -, chars⟩
  · rw [chars] at member
    exact Or.inl (Nat.isDigit_of_mem_toDigits (by decide) (by decide) member)
  · rw [chars] at member
    rcases List.mem_cons.mp member with minus | digit
    · exact Or.inr minus
    · exact Or.inl (Nat.isDigit_of_mem_toDigits (by decide) (by decide) digit)

theorem toString_int_inj {m n : Int} (same : toString m = toString n) : m = n := by
  have digits := congrArg String.toList same
  have noMinus : ∀ k, '-' ∉ Nat.toDigits 10 k := by
    intro k member
    have digit := Nat.isDigit_of_mem_toDigits (by decide) (by decide) member
    revert digit
    decide
  have value : ∀ {j k : Nat}, Nat.toDigits 10 j = Nat.toDigits 10 k → j = k := by
    intro j k equal
    have read := congrArg (fun chars => Nat.ofDigitChars 10 chars 0) equal
    simpa only [Nat.ofDigitChars_ten_toDigits] using read
  rcases toList_toString_int m with ⟨j, first, charsM⟩ | ⟨j, -, first, charsM⟩ <;>
    rcases toList_toString_int n with ⟨k, second, charsN⟩ | ⟨k, -, second, charsN⟩ <;>
    rw [charsM, charsN] at digits
  · rw [first, second, value digits]
  · have member : '-' ∈ Nat.toDigits 10 j := by
      rw [digits]
      exact List.mem_cons_self
    exact absurd member (noMinus j)
  · have member : '-' ∈ Nat.toDigits 10 k := by
      rw [← digits]
      exact List.mem_cons_self
    exact absurd member (noMinus k)
  · rw [first, second, value (List.cons.inj digits).2]

end Text

end ModuleDatabase
