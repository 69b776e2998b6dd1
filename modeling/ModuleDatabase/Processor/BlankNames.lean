import ModuleDatabase.Base.Pieces
import ModuleDatabase.Processor.Entries

namespace ModuleDatabase
namespace Processor

open Text
open Pieces
open Migration

/-!
# Directives with a blank name

`split` keeps empty pieces.  A comma too many, or a version with nothing behind
its colon, gives an empty name, and whoever reads the directive only asks whether
the list of names is empty, which it never is.

The texts with a blank name are described by where the blanks stand: between two
commas, or between a comma and where the names begin or end.
-/

/-! ## Blanks -/

/-- `Char.isWhitespace()`. -/
def isWhitespace (c : Char) : Bool :=
  (0x9 ≤ c.toNat && c.toNat ≤ 0xd) || (0x1c ≤ c.toNat && c.toNat ≤ 0x20) ||
    (0x2000 ≤ c.toNat && c.toNat ≤ 0x200a) ||
    [0xa0, 0x1680, 0x2028, 0x2029, 0x202f, 0x205f, 0x3000].contains c.toNat

/-- `text.isBlank()`. -/
def isBlank (text : String) : Bool := text.toList.all isWhitespace

/-- No directive, or a list of names with no blank one. -/
def NamesTables (directive : Option (List String)) : Prop :=
  ∀ names, directive = some names → names ≠ [] ∧ ∀ name ∈ names, isBlank name = false

/-- `version:`, with which an entry begins. -/
def beginning (dbVersion : Int) : List Char := (toString dbVersion).toList ++ [':']

/-- An entry of the version begins here, and blanks stand in the place of a name
between its first colon and the next colon or semicolon. -/
def BlankHere (dbVersion : Int) (tail : List Char) : Prop :=
  ∃ before blank behind, tail = beginning dbVersion ++ before ++ blank ++ behind ∧
    ';' ∉ before ∧ ':' ∉ before ∧ Opens ',' before ∧ blank.all isWhitespace = true ∧
      Closes [',', ':', ';'] behind

/-- The first entry of the version has blanks in the place of a name. -/
def BlankAmong (dbVersion : Int) (value : List Char) : Prop :=
  ∃ entries tail, value = entries ++ tail ∧ Opens ';' entries ∧
    (∀ earlier later, entries = earlier ++ (beginning dbVersion ++ later) → ¬ Opens ';' earlier) ∧
    BlankHere dbVersion tail

/-- Blanks stand in the place of a name in all of a text without entries. -/
def BlankAlone (value : List Char) : Prop :=
  value ≠ [] ∧ ';' ∉ value ∧ ':' ∉ value ∧
    ∃ before blank behind, value = before ++ blank ++ behind ∧ Opens ',' before ∧
      blank.all isWhitespace = true ∧ Closes [','] behind

theorem not_mem_blank {blank : List Char} (blanks : blank.all isWhitespace = true) {c : Char}
    (other : isWhitespace c = false) : c ∉ blank := by
  intro member
  rw [List.all_eq_true.mp blanks c member] at other
  cases other

theorem not_mem_beginning (dbVersion : Int) : ';' ∉ beginning dbVersion := by
  intro member
  rcases List.mem_append.mp member with digit | colon
  · exact ne_of_not_separator (version_free digit) (by decide) rfl
  · revert colon
    decide

/-! ## Names in a text -/

/-- A list of names has a blank one just when blanks stand between two commas,
or between a comma and an end. -/
theorem blank_of_split_iff (names : List Char) :
    (∃ name ∈ split ',' (String.ofList names), isBlank name = true) ↔
      ∃ before blank behind, names = before ++ blank ++ behind ∧ Opens ',' before ∧
        blank.all isWhitespace = true ∧ Closes [','] behind := by
  rw [split, String.toList_ofList]
  constructor
  · rintro ⟨name, member, blanks⟩
    rcases List.mem_map.mp member with ⟨blank, piece, same⟩
    rcases mem_splitOn_iff.mp piece with ⟨-, before, behind, cut, opens, closes⟩
    rw [← same, isBlank, String.toList_ofList] at blanks
    exact ⟨before, blank, behind, cut, opens, blanks, closes⟩
  · rintro ⟨before, blank, behind, cut, opens, blanks, closes⟩
    refine ⟨String.ofList blank, List.mem_map_of_mem ?_, ?_⟩
    · exact mem_splitOn_iff.mpr
        ⟨not_mem_blank blanks (by decide), before, behind, cut, opens, closes⟩
    · rw [isBlank, String.toList_ofList]
      exact blanks

/-! ## One entry -/

section Entry

variable {dbVersion : Int}

/-- What `getDatabaseUpdateTables` does with one entry. -/
def namesOf (dbVersion : Int) (version : String) : Option (List String) :=
  if startsWith version (toString dbVersion ++ ":") then
    ((split ':' version)[1]?).map (split ',')
  else none

/-- There is a list of names, with a blank one. -/
def HasBlank (directive : Option (List String)) : Prop :=
  ∃ names, directive = some names ∧ ∃ name ∈ names, isBlank name = true

/-- Blanks stand in the place of a name of this entry. -/
def BlankEntry (dbVersion : Int) (text : List Char) : Prop :=
  ∃ before blank behind, text = beginning dbVersion ++ before ++ blank ++ behind ∧
    ':' ∉ before ∧ Opens ',' before ∧ blank.all isWhitespace = true ∧ Closes [',', ':'] behind

theorem startsWith_beginning (text : List Char) :
    startsWith (String.ofList text) (toString dbVersion ++ ":") = true ↔
      beginning dbVersion <+: text := by
  rw [startsWith, List.isPrefixOf_iff_prefix, String.toList_ofList, String.toList_append]
  rfl

/-- The names stand between the first colon and the second one. -/
theorem namesOf_append {names behind : List Char} (free : ':' ∉ names)
    (closes : Closes [':'] behind) :
    namesOf dbVersion (String.ofList (beginning dbVersion ++ (names ++ behind))) =
      some (split ',' (String.ofList names)) := by
  have begins : startsWith (String.ofList (beginning dbVersion ++ (names ++ behind)))
      (toString dbVersion ++ ":") = true :=
    (startsWith_beginning _).mpr (List.prefix_append _ _)
  have noColon : ':' ∉ (toString dbVersion).toList := fun inside =>
    ne_of_not_separator (version_free inside) (by decide) rfl
  rcases splitOn_append free closes with ⟨rest, pieces⟩
  have parts : split ':' (String.ofList (beginning dbVersion ++ (names ++ behind))) =
      String.ofList (toString dbVersion).toList :: String.ofList names ::
        rest.map String.ofList := by
    rw [split, String.toList_ofList, beginning, List.append_assoc, List.singleton_append,
      List.splitOn_append_cons_self_of_not_mem noColon, pieces]
    rfl
  rw [namesOf, begins, if_pos rfl, parts]
  rfl

theorem namesOf_eq_none {text : List Char} (other : ¬ beginning dbVersion <+: text) :
    namesOf dbVersion (String.ofList text) = none := by
  rw [namesOf, if_neg fun begins => other ((startsWith_beginning text).mp begins)]

theorem hasBlank_namesOf_iff (text : List Char) :
    HasBlank (namesOf dbVersion (String.ofList text)) ↔ BlankEntry dbVersion text := by
  constructor
  · rintro ⟨names, read, name, member, blank⟩
    by_cases begins : beginning dbVersion <+: text
    · rcases begins with ⟨tail, shape⟩
      rcases exists_first ':' tail with ⟨listed, rest, cut, free, closes⟩
      rw [← shape, cut, namesOf_append free closes, Option.some.injEq] at read
      rw [← read] at member
      rcases (blank_of_split_iff listed).mp ⟨name, member, blank⟩ with
        ⟨before, blank, behind, inside, opens, blanks, ended⟩
      refine ⟨before, blank, behind ++ rest, ?_, ?_, opens, blanks, ?_⟩
      · rw [← shape, cut, inside]
        simp only [List.append_assoc]
      · intro colon
        rw [inside] at free
        exact free (List.mem_append_left _ (List.mem_append_left _ colon))
      · refine ended.append (closes.mono ?_) ?_
        · exact List.subset_cons_self _ _
        · exact List.cons_subset.mpr ⟨List.mem_cons_self, List.nil_subset _⟩
    · rw [namesOf_eq_none begins] at read
      cases read
  · rintro ⟨before, blank, behind, shape, noColon, opens, blanks, closes⟩
    rcases exists_first ':' behind with ⟨within, rest, cut, free, ended⟩
    have colons : ':' ∉ before ++ blank ++ within := by
      rw [List.mem_append, List.mem_append, not_or, not_or]
      exact ⟨⟨noColon, not_mem_blank blanks (by decide)⟩, free⟩
    have whole : text = beginning dbVersion ++ ((before ++ blank ++ within) ++ rest) := by
      rw [shape, cut]
      simp only [List.append_assoc]
    have closed : Closes [','] within := by
      cases within with
      | nil => exact Or.inl rfl
      | cons c others =>
          rcases closes with nothing | ⟨separator, member, tail, begins⟩
          · rw [cut] at nothing
            cases nothing
          · rw [cut, List.cons_append, List.cons.injEq] at begins
            rw [← begins.1] at member
            rcases List.mem_cons.mp member with comma | colon
            · exact Or.inr ⟨c, List.mem_singleton.mpr comma, others, rfl⟩
            · rw [List.mem_singleton.mp colon] at free
              exact absurd List.mem_cons_self free
    refine ⟨_, by rw [whole]; exact namesOf_append colons ended, ?_⟩
    exact (blank_of_split_iff _).mpr ⟨before, blank, within, rfl, opens, blanks, closed⟩

/-- An entry ends before a semicolon, or with the text. -/
theorem blankHere_append_iff {piece behind : List Char} (free : ';' ∉ piece)
    (closes : Closes [';'] behind) :
    BlankHere dbVersion (piece ++ behind) ↔ BlankEntry dbVersion piece := by
  constructor
  · rintro ⟨before, blank, rest, shape, noSemicolon, noColon, opens, blanks, ended⟩
    have semicolons : ';' ∉ beginning dbVersion ++ before ++ blank := by
      rw [List.mem_append, List.mem_append, not_or, not_or]
      exact ⟨⟨not_mem_beginning dbVersion, noSemicolon⟩, not_mem_blank blanks (by decide)⟩
    have within : ∃ middle, piece = (beginning dbVersion ++ before ++ blank) ++ middle ∧
        rest = middle ++ behind := by
      rcases closes with nothing | ⟨separator, member, tail, begun⟩
      · rw [nothing, List.append_nil] at shape
        exact ⟨rest, shape, by rw [nothing, List.append_nil]⟩
      · rw [begun, List.mem_singleton.mp member] at shape ⊢
        exact prefix_of_cut semicolons shape
    rcases within with ⟨middle, inside, left⟩
    refine ⟨before, blank, middle, inside, noColon, opens, blanks, ?_⟩
    cases middle with
    | nil => exact Or.inl rfl
    | cons c others =>
        rcases ended with nothing | ⟨separator, member, tail, begun⟩
        · rw [left] at nothing
          cases nothing
        · rw [left, List.cons_append, List.cons.injEq] at begun
          refine Or.inr ⟨c, ?_, others, rfl⟩
          rw [← begun.1] at member
          rcases List.mem_cons.mp member with comma | member
          · rw [comma]
            exact List.mem_cons_self
          · rcases List.mem_cons.mp member with colon | semicolon
            · rw [colon]
              exact List.mem_cons_of_mem _ List.mem_cons_self
            · rw [inside, List.mem_singleton.mp semicolon] at free
              exact absurd (List.mem_append_right _ List.mem_cons_self) free
  · rintro ⟨before, blank, rest, shape, noColon, opens, blanks, ended⟩
    refine ⟨before, blank, rest ++ behind, ?_, ?_, noColon, opens, blanks, ?_⟩
    · rw [shape]
      simp only [List.append_assoc]
    · intro semicolon
      rw [shape] at free
      exact free
        (List.mem_append_left _ (List.mem_append_left _ (List.mem_append_right _ semicolon)))
    · refine ended.append (closes.mono ?_) ?_ <;>
        simp only [List.cons_subset, List.mem_cons, List.nil_subset, true_or, or_true, and_self]

/-! ## All entries -/

theorem prefix_of_append {piece behind : List Char} (closes : Closes [';'] behind)
    (begins : beginning dbVersion <+: piece ++ behind) : beginning dbVersion <+: piece := by
  rcases closes with nothing | ⟨separator, member, tail, begun⟩
  · rwa [nothing, List.append_nil] at begins
  · rcases begins with ⟨rest, shape⟩
    rw [begun, List.mem_singleton.mp member] at shape
    rcases prefix_of_cut (not_mem_beginning dbVersion) shape.symm with ⟨middle, inside, -⟩
    exact ⟨middle, inside.symm⟩

theorem BlankHere.begins {tail : List Char} (blank : BlankHere dbVersion tail) :
    beginning dbVersion <+: tail := by
  rcases blank with ⟨before, blank, behind, shape, -⟩
  exact ⟨before ++ blank ++ behind, by rw [shape]; simp only [List.append_assoc]⟩

/-- If the first entry has the version, it decides. -/
theorem blankAmong_of_begins {piece behind : List Char} (free : ';' ∉ piece)
    (closes : Closes [';'] behind) (begins : beginning dbVersion <+: piece) :
    BlankAmong dbVersion (piece ++ behind) ↔ BlankHere dbVersion (piece ++ behind) := by
  constructor
  · rintro ⟨entries, tail, split, starts, first, blank⟩
    have noEntries : entries = [] := by
      by_contra nonempty
      rcases closes with nothing | ⟨separator, member, rest, begun⟩
      · rcases starts with empty | ⟨earlier, shape⟩
        · exact nonempty empty
        · rw [nothing, List.append_nil, shape] at split
          rw [split] at free
          exact free (List.mem_append_left _ (List.mem_append_right _ (List.mem_singleton_self _)))
      · rw [begun, List.mem_singleton.mp member] at split
        rcases starts.cases free split with empty | ⟨earlier, shape, -, -⟩
        · exact nonempty empty
        · rcases begins with ⟨later, inside⟩
          refine first [] (later ++ ';' :: earlier) ?_ (Or.inl rfl)
          rw [shape, ← inside, List.nil_append, List.append_assoc]
    rw [split, noEntries, List.nil_append]
    exact blank
  · intro blank
    refine ⟨[], piece ++ behind, rfl, Or.inl rfl, ?_, blank⟩
    intro earlier later nothing
    have empty := (List.append_eq_nil_iff.mp (List.append_eq_nil_iff.mp nothing.symm).2).1
    exact absurd empty (List.append_ne_nil_of_right_ne_nil _ (List.cons_ne_nil _ _))

/-- Otherwise the entries behind it do. -/
theorem blankAmong_cons_iff {piece rest : List Char} (free : ';' ∉ piece)
    (other : ¬ beginning dbVersion <+: piece) :
    BlankAmong dbVersion (piece ++ ';' :: rest) ↔ BlankAmong dbVersion rest := by
  have closes : ∀ others : List Char, Closes [';'] (';' :: others) := fun others =>
    Or.inr ⟨';', List.mem_singleton_self _, others, rfl⟩
  constructor
  · rintro ⟨entries, tail, split, starts, first, blank⟩
    rcases starts.cases free split with empty | ⟨earlier, shape, opens, behind⟩
    · rw [empty, List.nil_append] at split
      rw [← split] at blank
      exact absurd (prefix_of_append (closes rest) blank.begins) other
    · refine ⟨earlier, tail, behind, opens, ?_, blank⟩
      intro before later cut begins
      refine first (piece ++ ';' :: before) later ?_ (begins.append piece)
      rw [shape, cut, List.append_assoc]
      rfl
  · rintro ⟨entries, tail, split, starts, first, blank⟩
    refine ⟨piece ++ ';' :: entries, tail, ?_, starts.append piece, ?_, blank⟩
    · rw [split, List.append_assoc]
      rfl
    · intro earlier later cut begins
      rcases begins.cases free cut with empty | ⟨before, -, opens, behind⟩
      · rw [empty, List.nil_append] at cut
        exact other (prefix_of_append (closes entries) ⟨later, cut.symm⟩)
      · exact first before later behind opens

theorem not_blankAmong {text : List Char} (free : ';' ∉ text)
    (other : ¬ beginning dbVersion <+: text) : ¬ BlankAmong dbVersion text := by
  rintro ⟨entries, tail, split, starts, -, blank⟩
  rcases starts with empty | ⟨earlier, shape⟩
  · rw [empty, List.nil_append] at split
    rw [split] at other
    exact other blank.begins
  · rw [split, shape] at free
    exact free (List.mem_append_left _ (List.mem_append_right _ (List.mem_singleton_self _)))

/-- The first entry of the version is the one that is read. -/
theorem hasBlank_entries_iff (text : List Char) :
    HasBlank ((split ';' (String.ofList text)).findSome? (namesOf dbVersion)) ↔
      BlankAmong dbVersion text := by
  rw [split, String.toList_ofList]
  induction text using induction_on ';' with
  | last text free =>
      rw [List.splitOn_eq_singleton free, List.map_singleton, List.findSome?_singleton]
      by_cases begins : beginning dbVersion <+: text
      · have decides := blankAmong_of_begins free (Or.inl rfl : Closes [';'] []) begins
        have here : BlankHere dbVersion (text ++ []) ↔ BlankEntry dbVersion text :=
          blankHere_append_iff free (Or.inl rfl)
        rw [List.append_nil] at decides here
        rw [decides, here]
        exact hasBlank_namesOf_iff text
      · rw [namesOf_eq_none begins]
        refine iff_of_false ?_ (not_blankAmong free begins)
        rintro ⟨names, read, -⟩
        cases read
  | first piece rest free ih =>
      have closes : Closes [';'] (';' :: rest) :=
        Or.inr ⟨';', List.mem_singleton_self _, rest, rfl⟩
      rw [List.splitOn_append_cons_self_of_not_mem free, List.map_cons, List.findSome?_cons]
      by_cases begins : beginning dbVersion <+: piece
      · rw [blankAmong_of_begins free closes begins, blankHere_append_iff free closes,
          ← hasBlank_namesOf_iff]
        rcases begins with ⟨tail, shape⟩
        rcases exists_first ':' tail with ⟨names, behind, cut, apart, ended⟩
        rw [← shape, cut, namesOf_append apart ended]
      · rw [namesOf_eq_none begins, blankAmong_cons_iff free begins]
        exact ih

end Entry

/-! ## The whole directive -/

theorem split_ne_nil (separator : Char) (text : String) : split separator text ≠ [] := by
  rw [split, ne_eq, List.map_eq_nil_iff]
  exact List.splitOn_ne_nil separator text.toList

theorem contains_singleton (text : String) (c : Char) :
    contains text (String.ofList [c]) = true ↔ c ∈ text.toList := by
  rw [contains, occursIn_iff, String.toList_ofList, List.singleton_infix_iff]

/-- A text that is not empty is read as names, or as entries. -/
theorem directives_eq {value : String} (written : value ≠ "") (dbVersion : Int) :
    directives value dbVersion =
      if ';' ∉ value.toList ∧ ':' ∉ value.toList then some (split ',' value)
      else (split ';' value).findSome? (namesOf dbVersion) := by
  have absent : ∀ c, (!contains value (String.ofList [c])) = true ↔ c ∉ value.toList := by
    intro c
    rw [Bool.not_eq_true', ← Bool.not_eq_true, contains_singleton]
  have separators : (!contains value ";" && !contains value ":") = true ↔
      ';' ∉ value.toList ∧ ':' ∉ value.toList := by
    rw [Bool.and_eq_true]
    exact and_congr (absent ';') (absent ':')
  rw [directives, String.isEmpty_eq_false_iff.mpr written, if_neg Bool.false_ne_true]
  simp only [separators]
  rfl

/-- A list that is read is not empty. -/
theorem ne_nil_of_directives {value : String} {dbVersion : Int} {names : List String}
    (read : directives value dbVersion = some names) : names ≠ [] := by
  rw [directives] at read
  split at read
  · cases read
  · split at read
    · rw [← Option.some.inj read]
      exact split_ne_nil _ _
    · rcases List.exists_of_findSome?_eq_some read with ⟨version, -, found⟩
      split at found
      · rcases Option.map_eq_some_iff.mp found with ⟨text, -, same⟩
        rw [← same]
        exact split_ne_nil _ _
      · cases found

theorem hasBlank_directives_iff (value : String) (dbVersion : Int) :
    HasBlank (directives value dbVersion) ↔
      BlankAlone value.toList ∨ BlankAmong dbVersion value.toList := by
  by_cases empty : value = ""
  · rw [empty, directives_empty]
    refine iff_of_false ?_ ?_
    · rintro ⟨names, read, -⟩
      cases read
    · rintro (⟨written, -⟩ | ⟨entries, tail, nothing, -, -, blank⟩)
      · exact written rfl
      · rcases blank.begins with ⟨rest, shape⟩
        have noEntries := (List.append_eq_nil_iff.mp nothing.symm).2
        rw [noEntries, List.append_eq_nil_iff] at shape
        exact absurd shape.1 (List.append_ne_nil_of_right_ne_nil _ (List.cons_ne_nil _ _))
  · have chars : value.toList ≠ [] := fun nothing => empty (String.toList_eq_nil_iff.mp nothing)
    rw [directives_eq empty]
    by_cases bare : ';' ∉ value.toList ∧ ':' ∉ value.toList
    · have names := blank_of_split_iff value.toList
      rw [String.ofList_toList] at names
      have noEntry : ¬ BlankAmong dbVersion value.toList := by
        rintro ⟨entries, tail, cutAt, -, -, blank⟩
        rcases blank.begins with ⟨rest, shape⟩
        rw [cutAt, ← shape] at bare
        exact bare.2 (List.mem_append_right _ (List.mem_append_left _
          (List.mem_append_right _ (List.mem_singleton_self _))))
      rw [if_pos bare, or_iff_left noEntry]
      constructor
      · rintro ⟨listed, same, blank⟩
        rw [← Option.some.inj same] at blank
        exact ⟨chars, bare.1, bare.2, names.mp blank⟩
      · rintro ⟨-, -, -, blank⟩
        exact ⟨_, rfl, names.mpr blank⟩
    · have among : HasBlank ((split ';' (String.ofList value.toList)).findSome?
          (namesOf dbVersion)) ↔ BlankAmong dbVersion value.toList :=
        hasBlank_entries_iff value.toList
      rw [String.ofList_toList] at among
      have noNames : ¬ BlankAlone value.toList := fun blank => bare ⟨blank.2.1, blank.2.2.1⟩
      rw [if_neg bare, or_iff_right noNames]
      exact among

/-- The names that a directive gives are not blank if and only if no blanks stand
in the place of a name. -/
theorem directive_names_tables_iff (directive : Directive) (sqls : KtAutoSqls)
    (dbName : String) {value : String} (mapped : directive.mapping sqls dbName = some value)
    (dbVersion : Int) :
    NamesTables (directive.read sqls dbName dbVersion) ↔
      ¬ (BlankAlone value.toList ∨ BlankAmong dbVersion value.toList) := by
  rw [directive.read_eq, mapped, Option.bind_some, ← hasBlank_directives_iff]
  constructor
  · rintro named ⟨names, read, name, member, blank⟩
    rw [(named names read).2 name member] at blank
    cases blank
  · intro noEntries names read
    refine ⟨ne_nil_of_directives read, ?_⟩
    intro name member
    rw [← Bool.not_eq_true]
    exact fun blank => noEntries ⟨names, read, name, member, blank⟩

theorem directive_names_tables_two_entries :
    NamesTables (Directive.read .update (KtAutoSqls.ofEntries [] 1 (some "1:A;2:") none) "demo" 1) ↔
      ¬ (BlankAlone "1:A;2:".toList ∨ BlankAmong 1 "1:A;2:".toList) :=
  directive_names_tables_iff .update (KtAutoSqls.ofEntries [] 1 (some "1:A;2:") none) "demo" rfl 1

/-- A version with nothing behind its colon has one name, and it is empty. -/
theorem not_directive_names_tables_nothing :
    ¬ ∀ (directive : Directive) (sqls : KtAutoSqls) (dbName value : String) (dbVersion : Int),
      directive.mapping sqls dbName = some value →
      NamesTables (directive.read sqls dbName dbVersion) := by
  intro named
  have empty := (named .delete (KtAutoSqls.ofEntries [] 1 none (some "1:")) "demo" "1:" 1 rfl [""]
    (by decide)).2 "" (by decide)
  revert empty
  decide

end Processor
end ModuleDatabase
