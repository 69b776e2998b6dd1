import ModuleDatabase.Processor.Denotation
import ModuleDatabase.Sql.RootCase

namespace ModuleDatabase
namespace Processor

open Text
open Sql
open Migration

/-!
# What upper case does to the statements

The processor puts the whole value of a field in upper case before it looks at
the type.  So a statement that creates a table is stored, and later executed, in
upper case, with the literals in it.

It has the same tokens as the one that is declared if no literal holds a small
letter; a literal that does is another one in the class, and the statement is
legal all the same.
-/

/-! ## What is added to a list -/

/-- The value that a statement of the constructor adds to the list of a variable. -/
def Emitted.addedTo (name : String) : Emitted → Option String
  | add other value => if other = name then some value else none
  | _ => none

/-- What a constructor adds to the list of a variable, in order. -/
def addedTo (name : String) (file : List Emitted) : List String :=
  file.filterMap (Emitted.addedTo name)

theorem addedTo_append (name : String) (first second : List Emitted) :
    addedTo name (first ++ second) = addedTo name first ++ addedTo name second :=
  List.filterMap_append

section Lists

variable (toUpperCase : String → String)

/-- An element adds to its own list only, and its own values. -/
theorem addedTo_statementsOf (element : AnnotatedElement) (index other : Nat) :
    addedTo (tablesVariable other) (statementsOf toUpperCase element index) =
      if index = other then
        valuesOf toUpperCase TypeConfig.typeDbCreateTable element.enclosedElements
      else [] := by
  have adds : ∀ values : List String,
      addedTo (tablesVariable other) (values.map (.add (tablesVariable index))) =
        if index = other then values else [] := by
    intro values
    rw [addedTo, List.filterMap_map]
    by_cases same : index = other
    · rw [if_pos same, same]
      calc
        values.filterMap (Emitted.addedTo (tablesVariable other) ∘ .add (tablesVariable other)) =
            values.filterMap some :=
          List.filterMap_congr fun value _ => if_pos rfl
        _ = values := List.filterMap_some
    · rw [if_neg same]
      apply List.filterMap_eq_nil_iff.mpr
      intro value _
      exact if_neg fun equal => same (tablesVariable_inj equal)
  rw [statementsOf, addedTo_append, ← adds]
  exact List.append_nil _

theorem addedTo_earlier {index start : Nat} (earlier : index < start)
    (elements : List AnnotatedElement) :
    addedTo (tablesVariable index) (statements toUpperCase elements start) = [] := by
  induction elements generalizing start with
  | nil => rfl
  | cons element rest ih =>
      rw [statements, addedTo_append, ih (Nat.lt_succ_of_lt earlier), List.append_nil]
      split
      · rw [addedTo_statementsOf, if_neg (by omega)]
      · rfl

/-- A list holds the values of its element, in the order of the fields. -/
theorem addedTo_statements (elements : List AnnotatedElement) (start index : Nat) :
    addedTo (tablesVariable (start + index)) (statements toUpperCase elements start) =
      match elements[index]? with
      | some element =>
          if element.taken then
            valuesOf toUpperCase TypeConfig.typeDbCreateTable element.enclosedElements
          else []
      | none => [] := by
  induction elements generalizing start index with
  | nil => rfl
  | cons element rest ih =>
      rw [statements, addedTo_append]
      cases index with
      | zero =>
          rw [addedTo_earlier toUpperCase (Nat.lt_succ_self (start + 0)), List.append_nil,
            List.getElem?_cons_zero]
          dsimp only
          split
          · rw [addedTo_statementsOf, if_pos (Nat.add_zero start).symm]
          · rfl
      | succ index =>
          have own : addedTo (tablesVariable (start + (index + 1)))
              (if element.taken then statementsOf toUpperCase element start else []) = [] := by
            split
            · rw [addedTo_statementsOf, if_neg (by omega)]
            · rfl
          rw [own, List.nil_append, List.getElem?_cons_succ, ← ih (start + 1) index]
          congr 2
          omega

theorem addedTo_process (elements : List AnnotatedElement) {index : Nat}
    {element : AnnotatedElement} (here : elements[index]? = some element)
    (taken : element.taken = true) :
    addedTo (tablesVariable index) (process toUpperCase elements) =
      valuesOf toUpperCase TypeConfig.typeDbCreateTable element.enclosedElements := by
  have list := addedTo_statements toUpperCase elements 0 index
  rw [Nat.zero_add, here] at list
  dsimp only at list
  rw [taken, if_pos rfl] at list
  rw [process_eq, addedTo_append, list]
  rfl

end Lists

/-! ## The statements that are declared -/

/-- The `CREATE` values of an element that are not empty, as they are declared. -/
def AnnotatedElement.creates (element : AnnotatedElement) : List String :=
  element.enclosedElements.filterMap fun field => field.bind fun path =>
    if path.type = TypeConfig.typeDbCreateTable ∧ path.value.isEmpty = false then some path.value
    else none

/-- The statements of the two lists have the same tokens, one by one. -/
def SameStatements (reserved : List Char → Bool) (upper : Char → List Char)
    (declared stored : List String) : Prop :=
  List.Forall₂ (fun first second => SameStatement reserved upper first.toList second.toList)
    declared stored

/-- For every element that is taken, what is added to its list has the tokens that
are declared; and so have the statements that a database is created with. -/
structure KeepsMeaning (reserved : List Char → Bool) (upper : Char → List Char)
    (toUpperCase : String → String) (elements : List AnnotatedElement) : Prop where
  stored : ∀ index element, elements[index]? = some element → element.taken = true →
    SameStatements reserved upper element.creates
      (addedTo (tablesVariable index) (process toUpperCase elements))
  executed : ∃ state sqls,
    executeAll (process toUpperCase elements) Instance.blank = some state ∧
      state.maps = some sqls ∧ ∀ dbName element, lastElement elements dbName = some element →
        ∃ tables, ModuleReflectTool.getCreateTableSqls sqls dbName = some tables ∧
          SameStatements reserved upper element.creates tables

section Meaning

variable {reserved : List Char → Bool} {upper : Char → List Char} (root : RootCase upper)
  {toUpperCase : String → String}
  (uppers : ∀ text, (toUpperCase text).toList = text.toList.flatMap upper)
include root uppers

theorem isEmpty_toUpperCase (text : String) : (toUpperCase text).isEmpty = text.isEmpty := by
  rw [Bool.eq_iff_iff, String.isEmpty_iff, String.isEmpty_iff, ← String.toList_eq_nil_iff,
    ← String.toList_eq_nil_iff, uppers, List.flatMap_eq_nil_iff]
  constructor
  · intro absent
    apply List.eq_nil_iff_forall_not_mem.mpr
    intro c inside
    exact root.ne_nil c (absent c inside)
  · intro empty
    rw [empty]
    intro c inside
    cases inside

/-- What is stored is what is declared, in upper case. -/
theorem valuesOf_creates (element : AnnotatedElement) :
    valuesOf toUpperCase TypeConfig.typeDbCreateTable element.enclosedElements =
      element.creates.map toUpperCase := by
  rw [valuesOf, AnnotatedElement.creates, List.map_filterMap]
  congr 1
  funext field
  cases field with
  | none => rfl
  | some path =>
      rw [Option.bind_some, Option.bind_some, isEmpty_toUpperCase root uppers]
      split <;> rfl

theorem sameStatements_iff (declared : List String) :
    SameStatements reserved upper declared (declared.map toUpperCase) ↔
      ∀ value ∈ declared, ∀ token ∈ tokens reserved value.toList,
        CaseBlind reserved upper token := by
  rw [SameStatements, List.forall₂_map_right_iff, List.forall₂_same]
  simp only [uppers, root.sameStatement_iff]

omit root uppers in
/-- The last element with a name is one of the elements, and it is taken. -/
theorem lastElement_taken {elements : List AnnotatedElement} {dbName : String}
    {element : AnnotatedElement} (last : lastElement elements dbName = some element) :
    element ∈ elements ∧ element.taken = true := by
  have taken := List.find?_some last
  rw [Bool.and_eq_true] at taken
  exact ⟨List.mem_reverse.mp (List.mem_of_find?_eq_some last), taken.1⟩

theorem KeepsMeaning.caseBlind {elements : List AnnotatedElement}
    (keeps : KeepsMeaning reserved upper toUpperCase elements) {element : AnnotatedElement}
    (member : element ∈ elements) (taken : element.taken = true) :
    ∀ value ∈ element.creates, ∀ token ∈ tokens reserved value.toList,
      CaseBlind reserved upper token := by
  rcases List.getElem?_of_mem member with ⟨index, here⟩
  have same := keeps.stored index element here taken
  rw [addedTo_process toUpperCase elements here taken, valuesOf_creates root uppers] at same
  exact (sameStatements_iff root uppers element.creates).mp same

/-- The class keeps the meaning of the statements if and only if no token of a
statement depends on case. -/
theorem keepsMeaning_iff (elements : List AnnotatedElement) :
    KeepsMeaning reserved upper toUpperCase elements ↔
      ∀ element ∈ elements, element.taken = true → ∀ value ∈ element.creates,
        ∀ token ∈ tokens reserved value.toList, CaseBlind reserved upper token := by
  constructor
  · intro keeps element member taken
    exact keeps.caseBlind root uppers member taken
  · intro blind
    have same : ∀ element ∈ elements, element.taken = true →
        SameStatements reserved upper element.creates (element.creates.map toUpperCase) :=
      fun element member taken =>
        (sameStatements_iff root uppers element.creates).mpr (blind element member taken)
    constructor
    · intro index element here taken
      rw [addedTo_process toUpperCase elements here taken, valuesOf_creates root uppers]
      exact same element (List.mem_of_getElem? here) taken
    · rcases executeAll_process toUpperCase elements with ⟨state, runs, maps⟩
      refine ⟨state, denoted toUpperCase elements, runs, maps, ?_⟩
      intro dbName element last
      rcases lastElement_taken last with ⟨member, taken⟩
      refine ⟨element.creates.map toUpperCase, ?_, same element member taken⟩
      rw [ModuleReflectTool.getCreateTableSqls, denoted]
      dsimp only
      rw [last, Option.map_some, valuesOf_creates root uppers]

end Meaning

section Small

/-- Upper case of texts in ASCII and a letter for which two stand. -/
def sharpUpper (c : Char) : List Char := if c = 'ß' then ['S', 'S'] else [c.toUpper]

theorem sharpUpper_root : RootCase sharpUpper := by
  have far : ∀ c : Char, 128 ≤ c.toNat → c.toUpper = c := by
    intro c beyond
    have outside : ¬ (c.val ≥ 'a'.val ∧ c.val ≤ 'z'.val) := by
      rintro ⟨-, upTo⟩
      have small : c.toNat ≤ 122 := upTo
      omega
    exact dif_neg outside
  have twice : ∀ n : Fin 128, (Char.ofNat n).toUpper.toUpper = (Char.ofNat n).toUpper := by
    decide +kernel
  constructor
  · intro c near
    apply if_neg
    rintro same
    rw [same] at near
    revert near
    decide
  · intro c beyond
    unfold sharpUpper
    split
    · refine ⟨List.cons_ne_nil _ _, ?_⟩
      intro d inside
      simp only [List.mem_cons, List.not_mem_nil, or_false, or_self] at inside
      rw [inside]
      decide
    · refine ⟨List.cons_ne_nil _ _, ?_⟩
      intro d inside
      rw [List.mem_singleton.mp inside, far c beyond]
      exact Or.inl beyond
  · intro c d inside
    unfold sharpUpper at inside
    split at inside
    · simp only [List.mem_cons, List.not_mem_nil, or_false, or_self] at inside
      rw [inside]
      decide
    · rename_i other
      rw [List.mem_singleton.mp inside]
      by_cases near : c.toNat < 128
      · have still := forall_ascii (p := fun c => c.toUpper.toUpper = c.toUpper) twice near
        have notSharp : c.toUpper ≠ 'ß' := forall_ascii (p := fun c => c.toUpper ≠ 'ß')
          (by decide +kernel) near
        rw [sharpUpper, if_neg notSharp, still]
      · have same := far c (Nat.le_of_not_lt near)
        rw [same, sharpUpper, if_neg other, same]

/-- Some words are reserved, in any case. -/
def fewReserved (word : List Char) : Bool :=
  ["CREATE", "TABLE", "TEXT", "DEFAULT"].any fun keyword =>
    keyword.toList == word.map Char.toUpper

/-- A database with one statement. -/
def declaring (statement : String) : AnnotatedElement :=
  ⟨true, "demo", 1, [some ⟨statement, TypeConfig.typeDbCreateTable⟩]⟩

theorem toList_sharp (text : String) :
    (String.ofList (text.toList.flatMap sharpUpper)).toList = text.toList.flatMap sharpUpper :=
  String.toList_ofList

/-- A literal in capitals is kept, and a name is put in upper case. -/
theorem keepsMeaning_capitals :
    KeepsMeaning fewReserved sharpUpper
      (fun text => String.ofList (text.toList.flatMap sharpUpper))
      [declaring "create table Maße (a default 'A')"] := by
  apply (keepsMeaning_iff sharpUpper_root toList_sharp _).mpr
  intro element member _
  rw [List.mem_singleton.mp member]
  decide +kernel

/-- A literal in small letters is another one in the class. -/
theorem not_keepsMeaning_default :
    ¬ KeepsMeaning fewReserved sharpUpper
      (fun text => String.ofList (text.toList.flatMap sharpUpper))
      [declaring "CREATE TABLE T (A TEXT DEFAULT 'abc')"] := by
  intro keeps
  have blind := keeps.caseBlind sharpUpper_root toList_sharp List.mem_cons_self rfl
    "CREATE TABLE T (A TEXT DEFAULT 'abc')" (by decide) ⟨.string, "'abc'".toList⟩
    (by decide +kernel)
  exact absurd (blind.plain rfl 'a' (by decide)) (by decide)

end Small

end Processor
end ModuleDatabase
