import ModuleDatabase.Migration.Config

namespace ModuleDatabase
namespace Processor

open Text
open Migration

/-!
# The texts of the directives

An update or a delete directive holds entries `version:names`, separated by
`;`, or only names.  A number has no separator in it, so an entry is found by
its version alone: `1:` does not begin the entry of version 11, and what stands
before the first colon of an entry is the whole of its version.

So reading undoes writing for all names that have no separator in them
themselves.
-/

/-! ## The format -/

/-- An entry `version:names`. -/
structure Entry where
  version : Int
  names : List String
  deriving DecidableEq, Repr

def Entry.text (entry : Entry) : String :=
  toString entry.version ++ ":" ++ join "," entry.names

/-- The value of a field. -/
def versioned (entries : List Entry) : String := join ";" (entries.map Entry.text)

def isSeparator (c : Char) : Bool := c == ',' || c == ';' || c == ':'

/-- A name that is not empty and has no separator in it. -/
structure Separable (name : String) : Prop where
  named : name ≠ ""
  free : ∀ c ∈ name.toList, isSeparator c = false

/-- The entry names tables, and the names are separable. -/
structure Entry.Separable (entry : Entry) : Prop where
  nonempty : entry.names ≠ []
  names : ∀ name ∈ entry.names, Processor.Separable name

theorem ne_of_not_separator {c d : Char} (free : isSeparator c = false)
    (separator : isSeparator d = true) : c ≠ d := by
  intro same
  rw [same, separator] at free
  cases free

/-- A number is written without separators. -/
theorem version_free {n : Int} {c : Char} (member : c ∈ (toString n).toList) :
    isSeparator c = false := by
  rcases toString_int_chars member with digit | minus
  · have other : ∀ separator : Char, separator.isDigit = false → (c == separator) = false := by
      intro separator letter
      rw [beq_eq_false_iff_ne]
      intro same
      rw [same, letter] at digit
      cases digit
    rw [isSeparator, other ',' (by decide), other ';' (by decide), other ':' (by decide)]
    rfl
  · rw [minus]
    decide

section Format

variable {entry : Entry}

/-- What follows the colon of an entry. -/
theorem names_free (separable : entry.Separable) {c : Char}
    (member : c ∈ (join "," entry.names).toList) : isSeparator c = false ∨ c = ',' := by
  rcases mem_join member with comma | ⟨name, among, within⟩
  · exact Or.inr (List.mem_singleton.mp comma)
  · exact Or.inl ((separable.names name among).free c within)

theorem toList_text (entry : Entry) :
    entry.text.toList = (toString entry.version).toList ++ ':' :: (join "," entry.names).toList := by
  rw [Entry.text, String.toList_append, String.toList_append, List.append_assoc]
  rfl

/-- There is no semicolon in an entry. -/
theorem text_free (separable : entry.Separable) : ';' ∉ entry.text.toList := by
  intro member
  rw [toList_text, List.mem_append, List.mem_cons] at member
  rcases member with digit | colon | inside
  · exact ne_of_not_separator (version_free digit) (by decide) rfl
  · revert colon
    decide
  · rcases names_free separable inside with char | comma
    · exact ne_of_not_separator char (by decide) rfl
    · revert comma
      decide

/-- An entry is split at its colon. -/
theorem split_text (separable : entry.Separable) :
    split ':' entry.text = [toString entry.version, join "," entry.names] := by
  have joined : entry.text = join ":" [toString entry.version, join "," entry.names] := by
    rw [join, String.intercalate_cons_cons, String.intercalate_singleton]
    rfl
  rw [joined]
  apply split_join (List.cons_ne_nil _ _)
  intro text member inside
  rcases List.mem_cons.mp member with same | member
  · rw [same] at inside
    exact ne_of_not_separator (version_free inside) (by decide) rfl
  · rw [List.mem_singleton.mp member] at inside
    rcases names_free separable inside with char | comma
    · exact ne_of_not_separator char (by decide) rfl
    · revert comma
      decide

/-- An entry begins with a version and a colon only if it is its own version. -/
theorem startsWith_text (entry : Entry) (version : Int) :
    startsWith entry.text (toString version ++ ":") = true ↔ entry.version = version := by
  have noColon : ∀ n : Int, ':' ∉ (toString n).toList := by
    intro n inside
    exact ne_of_not_separator (version_free inside) (by decide) rfl
  have colon : (toString version ++ ":").toList = (toString version).toList ++ [':'] :=
    String.toList_append
  rw [startsWith, List.isPrefixOf_iff_prefix, toList_text, colon]
  constructor
  · rintro ⟨rest, same⟩
    rw [List.append_assoc, List.singleton_append] at same
    have parts := eq_of_append_cons (noColon version) (noColon entry.version) same
    exact toString_int_inj (String.toList_inj.mp parts.symm)
  · intro same
    rw [same]
    exact ⟨(join "," entry.names).toList, by rw [List.append_assoc, List.singleton_append]⟩

theorem split_names {names : List String} (nonempty : names ≠ [])
    (separable : ∀ name ∈ names, Separable name) : split ',' (join "," names) = names :=
  split_join nonempty fun name member inside =>
    ne_of_not_separator ((separable name member).free _ inside) (by decide) rfl

variable {entries : List Entry} (nonempty : entries ≠ [])
  (separable : ∀ entry ∈ entries, entry.Separable)
include nonempty separable

theorem split_versioned : split ';' (versioned entries) = entries.map Entry.text := by
  apply split_join
  · exact fun empty => nonempty (List.map_eq_nil_iff.mp empty)
  · intro text member inside
    rcases List.mem_map.mp member with ⟨entry, among, same⟩
    rw [← same] at inside
    exact text_free (separable entry among) inside

omit separable in
theorem contains_versioned : contains (versioned entries) ":" = true := by
  cases entries with
  | nil => exact absurd rfl nonempty
  | cons entry rest =>
      have colon : ':' ∈ (versioned (entry :: rest)).toList := by
        have here : ':' ∈ entry.text.toList := by
          rw [toList_text]
          exact List.mem_append_right _ List.mem_cons_self
        cases rest with
        | nil =>
            rw [versioned, join, List.map_singleton, String.intercalate_singleton]
            exact here
        | cons other others =>
            rw [versioned, join, List.map_cons, List.map_cons, String.intercalate_cons_cons,
              String.toList_append, String.toList_append]
            exact List.mem_append_left _ (List.mem_append_left _ here)
      rcases List.append_of_mem colon with ⟨before, behind, cut⟩
      rw [contains, occursIn_iff]
      exact ⟨before, behind, by rw [cut, List.append_assoc]; rfl⟩

/-- Reading a directive finds the first entry with the version. -/
theorem directives_versioned (version : Int) :
    directives (versioned entries) version =
      (entries.find? fun entry => entry.version == version).map Entry.names := by
  have colon := contains_versioned nonempty
  have written : (versioned entries).isEmpty = false := by
    rw [String.isEmpty_eq_false_iff]
    intro empty
    rw [empty] at colon
    revert colon
    decide
  rw [directives, written, colon, split_versioned nonempty separable, Bool.not_true,
    Bool.and_false, if_neg Bool.false_ne_true, if_neg Bool.false_ne_true]
  clear nonempty colon written
  induction entries with
  | nil => rfl
  | cons entry rest ih =>
      have here := separable entry List.mem_cons_self
      have later := ih fun other member => separable other (List.mem_cons_of_mem _ member)
      rw [List.map_cons, List.findSome?_cons, List.find?_cons]
      by_cases same : entry.version = version
      · rw [(startsWith_text entry version).mpr same, if_pos rfl, split_text here, beq_iff_eq.mpr same]
        exact congrArg some (split_names here.nonempty here.names)
      · have other : startsWith entry.text (toString version ++ ":") = false := by
          rw [← Bool.not_eq_true, startsWith_text]
          exact same
        rw [other, if_neg Bool.false_ne_true, beq_eq_false_iff_ne.mpr same]
        exact later

omit nonempty separable in
/-- Names alone are read for every version. -/
theorem directives_names {names : List String} (nonempty : names ≠ [])
    (separable : ∀ name ∈ names, Separable name) (version : Int) :
    directives (join "," names) version = some names := by
  have absent : ∀ separator : Char, isSeparator separator = true → separator ≠ ',' →
      contains (join "," names) (String.ofList [separator]) = false := by
    intro separator special other
    rw [← Bool.not_eq_true, contains, occursIn_iff, String.toList_ofList,
      List.singleton_infix_iff]
    intro member
    rcases mem_join member with comma | ⟨name, among, within⟩
    · exact other (List.mem_singleton.mp comma)
    · exact ne_of_not_separator ((separable name among).free _ within) special rfl
  have written : (join "," names).isEmpty = false := by
    rw [String.isEmpty_eq_false_iff]
    intro empty
    have parts := split_names nonempty separable
    rw [empty] at parts
    have alone : "" ∈ names := by
      rw [← parts]
      decide
    exact (separable "" alone).named rfl
  have semicolon : contains (join "," names) ";" = false := absent ';' (by decide) (by decide)
  have colon : contains (join "," names) ":" = false := absent ':' (by decide) (by decide)
  rw [directives, written, semicolon, colon, if_neg Bool.false_ne_true, Bool.not_false,
    Bool.and_true, if_pos rfl, split_names nonempty separable]

end Format

/-- In a list without a version twice, the entry of its version is found. -/
theorem find_version {entries : List Entry} (distinct : (entries.map Entry.version).Nodup)
    {entry : Entry} (member : entry ∈ entries) :
    (entries.find? fun other => other.version == entry.version) = some entry := by
  induction entries with
  | nil => cases member
  | cons first rest ih =>
      rw [List.map_cons, List.nodup_cons] at distinct
      rw [List.find?_cons]
      rcases List.mem_cons.mp member with same | later
      · rw [same, beq_self_eq_true]
      · have other : first.version ≠ entry.version := by
          intro same
          rw [same] at distinct
          exact distinct.1 (List.mem_map_of_mem later)
        rw [beq_eq_false_iff_ne.mpr other]
        exact ih distinct.2 later

/-! ## The two directives -/

/-- The directives of a database. -/
inductive Directive where
  | update
  | delete
  deriving DecidableEq, Repr

namespace Directive

/-- The map that holds the values. -/
def mapping : Directive → KtAutoSqls → String → Option String
  | update => KtAutoSqls.updateTableMapping
  | delete => KtAutoSqls.deleteTableMapping

/-- What the upgrade reads. -/
def read : Directive → KtAutoSqls → String → Int → Option (List String)
  | update => ModuleReflectTool.getDatabaseUpdateTables
  | delete => ModuleReflectTool.getDatabaseDeleteTables

theorem read_eq (directive : Directive) (sqls : KtAutoSqls) (dbName : String) (version : Int) :
    directive.read sqls dbName version =
      (directive.mapping sqls dbName).bind fun value => directives value version := by
  cases directive <;> rfl

end Directive

theorem directives_empty (version : Int) : directives "" version = none := rfl

/-- Reading undoes writing. -/
theorem directive_reads_written (directive : Directive) (sqls : KtAutoSqls) (dbName : String) :
    (∀ entries : List Entry, (entries.map Entry.version).Nodup →
      (∀ entry ∈ entries, entry.Separable) →
      directive.mapping sqls dbName = some (versioned entries) →
      (∀ entry ∈ entries, directive.read sqls dbName entry.version = some entry.names) ∧
        ∀ version, (∀ entry ∈ entries, entry.version ≠ version) →
          directive.read sqls dbName version = none) ∧
    ∀ names : List String, names ≠ [] → (∀ name ∈ names, Separable name) →
      directive.mapping sqls dbName = some (join "," names) →
      ∀ version, directive.read sqls dbName version = some names := by
  constructor
  · intro entries distinct separable mapped
    have reads : ∀ version, directive.read sqls dbName version =
        (entries.find? fun entry => entry.version == version).map Entry.names := by
      intro version
      rw [directive.read_eq, mapped, Option.bind_some]
      by_cases empty : entries = []
      · rw [empty]
        exact directives_empty version
      · exact directives_versioned empty separable version
    constructor
    · intro entry member
      rw [reads, find_version distinct member, Option.map_some]
    · intro version absent
      rw [reads, Option.map_eq_none_iff, List.find?_eq_none]
      intro entry member same
      exact absent entry member (beq_iff_eq.mp same)
  · intro names nonempty separable mapped version
    rw [directive.read_eq, mapped, Option.bind_some]
    exact directives_names nonempty separable version

/-- Versions whose numbers begin or end like each other. -/
def alike : List Entry := [⟨11, ["a", "b c"]⟩, ⟨1, ["d"]⟩, ⟨-1, ["e"]⟩]

theorem separable_of_all {names : List String}
    (checked : names.all (fun name =>
      name != "" && name.toList.all fun c => !isSeparator c) = true) :
    ∀ name ∈ names, Separable name := by
  intro name member
  have here := List.all_eq_true.mp checked name member
  rw [Bool.and_eq_true, bne_iff_ne, List.all_eq_true] at here
  refine ⟨here.1, ?_⟩
  intro c inside
  have free := here.2 c inside
  rwa [Bool.not_eq_true'] at free

theorem alike_separable : ∀ entry ∈ alike, entry.Separable := by
  intro entry member
  rcases List.mem_cons.mp member with first | member
  · rw [first]
    exact ⟨by decide, separable_of_all (by decide)⟩
  · rcases List.mem_cons.mp member with second | member
    · rw [second]
      exact ⟨by decide, separable_of_all (by decide)⟩
    · rw [List.mem_singleton.mp member]
      exact ⟨by decide, separable_of_all (by decide)⟩

theorem directive_reads_alike :
    ModuleReflectTool.getDatabaseUpdateTables
        (KtAutoSqls.ofEntries [] 1 (some "11:a,b c;1:d;-1:e") none) "demo" 1 = some ["d"] ∧
      ModuleReflectTool.getDatabaseDeleteTables
        (KtAutoSqls.ofEntries [] 1 none (some "a,b c")) "demo" 7 = some ["a", "b c"] :=
  ⟨((directive_reads_written .update (KtAutoSqls.ofEntries [] 1 (some "11:a,b c;1:d;-1:e") none)
      "demo").1 alike (by decide) alike_separable (by decide)).1 ⟨1, ["d"]⟩ (by decide),
    (directive_reads_written .delete (KtAutoSqls.ofEntries [] 1 none (some "a,b c"))
      "demo").2 ["a", "b c"] (by decide) (separable_of_all (by decide)) rfl 7⟩

end Processor
end ModuleDatabase
