import ModuleDatabase.Processor.Denotation
import ModuleDatabase.Processor.Entries

namespace ModuleDatabase
namespace Processor

open Text
open Migration

/-!
# Are directives lost between the annotation and the upgrade?

A field with an update or a delete directive holds entries `version:names`,
separated by `;`.  At run time the text of the map is split again, and the entry
of the version that is left gives its names.

Reading undoes writing, for every text in this format.  But the processor keeps
one text for each database: while the statements that create tables add up, a
directive takes the place of the one before.  So all entries are found again
just when there is no more than one field.
-/

/-! ## Plain entries -/

namespace Entry

/-- The entry names tables, and the names are plain. -/
structure Plain (entry : Entry) : Prop where
  nonempty : entry.names ≠ []
  words : ∀ name ∈ entry.names, isWord name = true

theorem plain_of_all {fields : List (List Entry)}
    (checked : fields.all (fun entries =>
      entries.all fun entry => !entry.names.isEmpty && entry.names.all isWord) = true) :
    ∀ entries ∈ fields, ∀ entry ∈ entries, entry.Plain := by
  intro entries member entry among
  have here := List.all_eq_true.mp (List.all_eq_true.mp checked entries member) entry among
  rw [Bool.and_eq_true, Bool.not_eq_true', List.isEmpty_eq_false_iff] at here
  exact ⟨here.1, List.all_eq_true.mp here.2⟩

end Entry

section Format

/-- A character of a plain text: it stands in names and in numbers. -/
def isPlainChar (c : Char) : Bool := isWordChar c || c == '-'

theorem isPlainChar_ne {c d : Char} (plain : isPlainChar c = true)
    (other : isPlainChar d = false) : c ≠ d := by
  intro same
  rw [same, other] at plain
  cases plain

theorem version_chars {n : Int} {c : Char} (member : c ∈ (toString n).toList) :
    isPlainChar c = true := by
  rcases toString_int_chars member with digit | minus
  · rw [isPlainChar, isWordChar, Char.isAlphanum, digit, Bool.or_true]
    rfl
  · rw [minus]
    decide

theorem name_chars {name : String} (word : isWord name = true) {c : Char}
    (member : c ∈ name.toList) : isPlainChar c = true := by
  have char := List.all_eq_true.mp (Bool.and_eq_true_iff.mp word).1 c member
  rw [isPlainChar, char, Bool.true_or]

variable {entry : Entry}

/-- What follows the colon of an entry. -/
theorem names_chars (plain : entry.Plain) {c : Char}
    (member : c ∈ (join "," entry.names).toList) : isPlainChar c = true ∨ c = ',' := by
  rcases mem_join member with comma | ⟨name, among, within⟩
  · exact Or.inr (List.mem_singleton.mp comma)
  · exact Or.inl (name_chars (plain.words name among) within)

theorem text_chars (plain : entry.Plain) {c : Char} (member : c ∈ entry.text.toList) :
    isPlainChar c = true ∨ c = ',' ∨ c = ':' := by
  rw [toList_text, List.mem_append, List.mem_cons] at member
  rcases member with digit | colon | inside
  · exact Or.inl (version_chars digit)
  · exact Or.inr (Or.inr colon)
  · rcases names_chars plain inside with char | comma
    · exact Or.inl char
    · exact Or.inr (Or.inl comma)

/-- A plain character is no separator. -/
theorem isSeparator_of_isPlainChar {c : Char} (plain : isPlainChar c = true) :
    isSeparator c = false := by
  have other : ∀ separator : Char, isPlainChar separator = false → (c == separator) = false := by
    intro separator special
    exact beq_eq_false_iff_ne.mpr (isPlainChar_ne plain special)
  rw [isSeparator, other ',' (by decide), other ';' (by decide), other ':' (by decide)]
  rfl

theorem Entry.Plain.separable (plain : entry.Plain) : entry.Separable where
  nonempty := plain.nonempty
  names := fun name member =>
    { named := isWord_ne_empty (plain.words name member)
      free := fun _ inside =>
        isSeparator_of_isPlainChar (name_chars (plain.words name member) inside) }

end Format

/-! ## Upper case -/

/-- On ASCII texts the platform changes the letters and nothing else. -/
def UpperCases (toUpperCase : String → String) : Prop :=
  ∀ text, (∀ c ∈ text.toList, c.toNat < 128) → toUpperCase text = upper text

theorem isPlainChar_ascii {c : Char} (plain : isPlainChar c = true) : c.toNat < 128 := by
  rw [isPlainChar, Bool.or_eq_true, beq_iff_eq] at plain
  rcases plain with word | minus
  · exact toNat_of_isWordChar word
  · rw [minus]
    decide

theorem upper_version (n : Int) : upper (toString n) = toString n := by
  apply String.toList_inj.mp
  rw [toList_upper]
  refine (List.map_congr_left ?_).trans (List.map_id _)
  intro c member
  have all : ∀ n : Fin 128, ((Char.ofNat n).isDigit = true ∨ Char.ofNat n = '-') →
      (Char.ofNat n).toUpper = Char.ofNat n := by decide +kernel
  exact forall_ascii (p := fun c => (c.isDigit = true ∨ c = '-') → c.toUpper = c) all
    (isPlainChar_ascii (version_chars member)) (toString_int_chars member)

namespace Entry

/-- The entry with its names in upper case. -/
def upper (entry : Entry) : Entry := ⟨entry.version, entry.names.map Text.upper⟩

theorem text_upper (entry : Entry) : entry.upper.text = Text.upper entry.text := by
  have colon : Text.upper ":" = ":" := by decide
  have comma : Text.upper "," = "," := by decide
  rw [text, text, upper_append, upper_append, upper_version, colon, upper_join, comma]
  rfl

theorem Plain.upper {entry : Entry} (plain : entry.Plain) : entry.upper.Plain where
  nonempty := fun empty => plain.nonempty (List.map_eq_nil_iff.mp empty)
  words := by
    intro name member
    rcases List.mem_map.mp member with ⟨original, among, same⟩
    rw [← same]
    exact isWord_upper (plain.words original among)

end Entry

theorem versioned_upper (entries : List Entry) :
    versioned (entries.map Entry.upper) = upper (versioned entries) := by
  have semicolon : upper ";" = ";" := by decide
  rw [versioned, versioned, upper_join, semicolon, List.map_map, List.map_map]
  congr 1
  exact List.map_congr_left fun entry _ => entry.text_upper

section Upper

variable {toUpperCase : String → String} (upperCases : UpperCases toUpperCase)
include upperCases

theorem toUpperCase_name {name : String} (word : isWord name = true) :
    toUpperCase name = upper name :=
  upperCases name fun _ member => isPlainChar_ascii (name_chars word member)

theorem toUpperCase_versioned {entries : List Entry} (plain : ∀ entry ∈ entries, entry.Plain) :
    toUpperCase (versioned entries) = versioned (entries.map Entry.upper) := by
  rw [versioned_upper]
  apply upperCases
  intro c member
  rcases mem_join member with semicolon | ⟨text, among, inside⟩
  · rw [List.mem_singleton.mp semicolon]
    decide
  · rcases List.mem_map.mp among with ⟨entry, listed, same⟩
    rw [← same] at inside
    rcases text_chars (plain entry listed) inside with char | comma | colon
    · exact isPlainChar_ascii char
    · rw [comma]
      decide
    · rw [colon]
      decide

end Upper

/-! ## The two directives -/

/-- The type of the fields with a directive. -/
def Directive.type : Directive → Int
  | update => TypeConfig.typeDbTableUpdate
  | delete => TypeConfig.typeDbTableDelete

/-- The fields of an element with a directive hold these entries, which name
plain tables, and no version twice. -/
structure Declares (directive : Directive) (element : AnnotatedElement)
    (fields : List (List Entry)) : Prop where
  values : (element.enclosedElements.filterMap fun field => field.bind fun path =>
    if path.type = directive.type then some path.value else none) = fields.map versioned
  nonempty : ∀ entries ∈ fields, entries ≠ []
  plain : ∀ entries ∈ fields, ∀ entry ∈ entries, entry.Plain
  distinct : (fields.flatten.map Entry.version).Nodup

/-- Every entry is found again with its names in upper case, and no other
version is. -/
def FoundAgain (toUpperCase : String → String) (directive : Directive) (sqls : KtAutoSqls)
    (dbName : String) (fields : List (List Entry)) : Prop :=
  (∀ entry ∈ fields.flatten,
    directive.read sqls dbName entry.version = some (entry.names.map toUpperCase)) ∧
    ∀ version, (∀ entry ∈ fields.flatten, entry.version ≠ version) →
      directive.read sqls dbName version = none

/-- What the upgrade reads is what the last field holds. -/
theorem read_denoted (toUpperCase : String → String) (directive : Directive)
    {elements : List AnnotatedElement} {dbName : String} {element : AnnotatedElement}
    (last : lastElement elements dbName = some element) (version : Int) :
    directive.read (denoted toUpperCase elements) dbName version =
      directives (lastOf toUpperCase directive.type element.enclosedElements) version := by
  cases directive with
  | update =>
      rw [Directive.read, ModuleReflectTool.getDatabaseUpdateTables, denoted]
      dsimp only
      rw [last]
      rfl
  | delete =>
      rw [Directive.read, ModuleReflectTool.getDatabaseDeleteTables, denoted]
      dsimp only
      rw [last]
      rfl

theorem valuesOf_eq (toUpperCase : String → String) (type : Int)
    (fields : List (Option ModuleDBVariable)) :
    valuesOf toUpperCase type fields =
      (fields.filterMap fun field => field.bind fun path =>
        if path.type = type then some path.value else none).filterMap fun value =>
          if (toUpperCase value).isEmpty = false then some (toUpperCase value) else none := by
  rw [valuesOf, List.filterMap_filterMap]
  congr 1
  funext field
  cases field with
  | none => rfl
  | some path =>
      rw [Option.bind_some, Option.bind_some]
      by_cases fits : path.type = type
      · simp only [fits, true_and, if_true, Option.bind_some]
      · simp only [fits, false_and, if_false, Option.bind_none]

section Reading

variable {toUpperCase : String → String} (upperCases : UpperCases toUpperCase)
  {directive : Directive} {element : AnnotatedElement} {fields : List (List Entry)}
  (declares : Declares directive element fields)
include upperCases declares

/-- The values of the fields, in upper case. -/
theorem Declares.valuesOf :
    valuesOf toUpperCase directive.type element.enclosedElements =
      fields.map fun entries => versioned (entries.map Entry.upper) := by
  rw [valuesOf_eq, declares.values, List.filterMap_map, ← List.filterMap_eq_map]
  apply List.filterMap_congr
  intro entries member
  have plain := declares.plain entries member
  have colon : contains (versioned (entries.map Entry.upper)) ":" = true :=
    contains_versioned fun empty =>
      declares.nonempty entries member (List.map_eq_nil_iff.mp empty)
  have written : (versioned (entries.map Entry.upper)).isEmpty = false := by
    rw [String.isEmpty_eq_false_iff]
    intro empty
    rw [empty] at colon
    revert colon
    decide
  dsimp only [Function.comp]
  rw [toUpperCase_versioned upperCases plain, written, if_pos rfl]

/-- The entry of a version is looked for in the last field. -/
theorem Declares.read {elements : List AnnotatedElement} {dbName : String}
    (last : lastElement elements dbName = some element) (version : Int) :
    directive.read (denoted toUpperCase elements) dbName version =
      fields.getLast?.bind fun entries =>
        (entries.find? fun entry => entry.version == version).map fun entry =>
          entry.names.map toUpperCase := by
  rw [read_denoted toUpperCase directive last, lastOf, declares.valuesOf upperCases,
    List.getLast?_map]
  cases found : fields.getLast? with
  | none => exact directives_empty version
  | some entries =>
      have member := List.mem_of_getLast? found
      have plain := declares.plain entries member
      have nonempty : entries.map Entry.upper ≠ [] := fun empty =>
        declares.nonempty entries member (List.map_eq_nil_iff.mp empty)
      have plainUpper : ∀ entry ∈ entries.map Entry.upper, entry.Plain := by
        intro entry among
        rcases List.mem_map.mp among with ⟨original, inside, same⟩
        rw [← same]
        exact (plain original inside).upper
      rw [Option.map_some, Option.getD_some,
        directives_versioned nonempty fun entry among => (plainUpper entry among).separable,
        Option.bind_some, List.find?_map, Option.map_map]
      cases hit : entries.find? fun entry => entry.version == version with
      | none =>
          have sameHit : entries.find? ((fun entry => entry.version == version) ∘ Entry.upper) =
              none := hit
          rw [sameHit]
          rfl
      | some entry =>
          have sameHit : entries.find? ((fun entry => entry.version == version) ∘ Entry.upper) =
              some entry := hit
          rw [sameHit, Option.map_some, Option.map_some]
          congr 1
          apply List.map_congr_left
          intro name among
          exact (toUpperCase_name upperCases
            ((plain entry (List.mem_of_find?_eq_some hit)).words name among)).symm

end Reading

/-- All entries are found again if and only if there is no more than one field. -/
theorem directives_found_iff {toUpperCase : String → String} (upperCases : UpperCases toUpperCase)
    (directive : Directive) {elements : List AnnotatedElement} {dbName : String}
    {element : AnnotatedElement} (last : lastElement elements dbName = some element)
    {fields : List (List Entry)} (declares : Declares directive element fields) :
    ∃ state sqls, executeAll (process toUpperCase elements) Instance.blank = some state ∧
      state.maps = some sqls ∧
      (FoundAgain toUpperCase directive sqls dbName fields ↔ fields.length ≤ 1) := by
  rcases executeAll_process toUpperCase elements with ⟨state, runs, maps⟩
  refine ⟨state, _, runs, maps, ?_⟩
  have reads := declares.read upperCases last
  have distinct := declares.distinct
  unfold FoundAgain
  simp only [reads]
  rcases List.eq_nil_or_concat fields with noEntries | ⟨earlier, entries, split⟩
  · subst noEntries
    simp
  · rw [List.concat_eq_append] at split
    subst split
    rw [List.flatten_append, List.flatten_singleton, List.map_append, List.nodup_append] at distinct
    rw [List.getLast?_concat, List.flatten_append, List.flatten_singleton, List.length_append,
      List.length_singleton]
    simp only [Option.bind_some]
    constructor
    · rintro ⟨found, -⟩
      by_contra more
      have nonempty : earlier ≠ [] := by
        intro empty
        rw [empty] at more
        exact more (Nat.le_refl 1)
      rcases List.exists_mem_of_ne_nil _ nonempty with ⟨others, inside⟩
      rcases List.exists_mem_of_ne_nil _
        (declares.nonempty others (List.mem_append_left _ inside)) with ⟨entry, member⟩
      have early : entry ∈ earlier.flatten := List.mem_flatten_of_mem inside member
      -- The last field has no entry with the version of an earlier one.
      have missing : (entries.find? fun other => other.version == entry.version) = none := by
        apply List.find?_eq_none.mpr
        intro other among same
        exact distinct.2.2 entry.version (List.mem_map_of_mem early) other.version
          (List.mem_map_of_mem among) (beq_iff_eq.mp same).symm
      have hit := found entry (List.mem_append_left _ early)
      rw [missing] at hit
      cases hit
    · intro single
      have noEntries : earlier = [] := List.length_eq_zero_iff.mp (by omega)
      subst noEntries
      rw [List.flatten_nil, List.nil_append]
      constructor
      · intro entry member
        rw [find_version distinct.2.1 member, Option.map_some]
      · intro version absent
        rw [Option.map_eq_none_iff]
        apply List.find?_eq_none.mpr
        intro entry member same
        exact absent entry member (beq_iff_eq.mp same)

/-! ## Two fields, and one -/

/-- A class with two update directives. -/
def twoUpdates : AnnotatedElement where
  validates := true
  dbName := "demo"
  dbVersion := 3
  enclosedElements := [some ⟨"1:A", TypeConfig.typeDbTableUpdate⟩,
    some ⟨"2:B", TypeConfig.typeDbTableUpdate⟩]

def entriesA : List Entry := [⟨1, ["A"]⟩]

def entriesB : List Entry := [⟨2, ["B"]⟩]

theorem upperCases_upper : UpperCases upper := fun _ _ => rfl

theorem declares_twoUpdates : Declares .update twoUpdates [entriesA, entriesB] where
  values := by decide
  nonempty := by decide
  plain := Entry.plain_of_all (by decide)
  distinct := by decide

/-- The directive for version 1 is lost. -/
theorem not_found_two_updates :
    ∃ state sqls, executeAll (process upper [twoUpdates]) Instance.blank = some state ∧
      state.maps = some sqls ∧
      ¬ FoundAgain upper .update sqls "demo" [entriesA, entriesB] := by
  rcases executeAll_process upper [twoUpdates] with ⟨state, runs, maps⟩
  refine ⟨state, _, runs, maps, ?_⟩
  rintro ⟨found, -⟩
  have hit := found ⟨1, ["A"]⟩ (by decide)
  rw [declares_twoUpdates.read upperCases_upper rfl] at hit
  revert hit
  decide

/-- A class with a delete directive for two versions. -/
def oneDelete : AnnotatedElement where
  validates := true
  dbName := "demo"
  dbVersion := 3
  enclosedElements := [none, some ⟨"1:a;2:b,c", TypeConfig.typeDbTableDelete⟩]

theorem declares_oneDelete :
    Declares .delete oneDelete [[⟨1, ["a"]⟩, ⟨2, ["b", "c"]⟩]] where
  values := by decide
  nonempty := by decide
  plain := Entry.plain_of_all (by decide)
  distinct := by decide

/-- Both entries of the one field are found. -/
theorem found_one_delete :
    ∃ state sqls, executeAll (process upper [oneDelete]) Instance.blank = some state ∧
      state.maps = some sqls ∧
      FoundAgain upper .delete sqls "demo" [[⟨1, ["a"]⟩, ⟨2, ["b", "c"]⟩]] := by
  have last : lastElement [oneDelete] "demo" = some oneDelete := rfl
  rcases directives_found_iff upperCases_upper .delete last declares_oneDelete with
    ⟨state, sqls, runs, maps, found⟩
  exact ⟨state, sqls, runs, maps, found.mpr (Nat.le_refl 1)⟩

end Processor
end ModuleDatabase
