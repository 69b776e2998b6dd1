import ModuleDatabase.Base.Text
import ModuleDatabase.Processor.ModuleProcessor

namespace ModuleDatabase
namespace Processor

open Text
open Migration

/-!
# What the generated class denotes

The constructor that the processor writes is executed.  It compiles, and each
map sends the name of a database to what the last valid element with that name
says, and to nothing else.

The loops of the processor append to a constructor that is there already.  What
they append is first described for each element by itself; the run over all
elements then keeps an invariant: the maps hold what the elements so far denote,
the references in them are to variables of these elements, and no variable of a
later element is declared.
-/

/-! ## What the annotations say -/

section Annotations

variable (toUpperCase : String → String)

/-- The non-empty values of a type, in upper case and in order. -/
def valuesOf (type : Int) (fields : List (Option ModuleDBVariable)) : List String :=
  fields.filterMap fun field => field.bind fun path =>
    if path.type = type ∧ (toUpperCase path.value).isEmpty = false then
      some (toUpperCase path.value)
    else none

/-- The last non-empty value of a type, or the empty text. -/
def lastOf (type : Int) (fields : List (Option ModuleDBVariable)) : String :=
  (valuesOf toUpperCase type fields).getLast?.getD ""

/-- The type of the fields behind a map of texts. -/
def TextMapping.type : TextMapping → Int
  | path => TypeConfig.typeDbPath
  | updateTable => TypeConfig.typeDbTableUpdate
  | deleteTable => TypeConfig.typeDbTableDelete

end Annotations

/-- The element is taken into the class. -/
def AnnotatedElement.taken (element : AnnotatedElement) : Bool :=
  element.validates && !element.dbName.isEmpty

/-- The last element that is taken with this name. -/
def lastElement (elements : List AnnotatedElement) (dbName : String) : Option AnnotatedElement :=
  elements.reverse.find? fun element => element.taken && element.dbName == dbName

theorem lastElement_append (elements : List AnnotatedElement) (element : AnnotatedElement)
    (dbName : String) :
    lastElement (elements ++ [element]) dbName =
      if element.taken = true ∧ element.dbName = dbName then some element
      else lastElement elements dbName := by
  unfold lastElement
  rw [List.reverse_append, List.reverse_singleton, List.singleton_append, List.find?_cons]
  by_cases here : element.taken = true ∧ element.dbName = dbName
  · rw [if_pos here, here.1, here.2, beq_self_eq_true]
    rfl
  · rw [if_neg here]
    have other : (element.taken && element.dbName == dbName) = false := by
      rw [Bool.eq_false_iff, ne_eq, Bool.and_eq_true, beq_iff_eq]
      exact here
    rw [other]

theorem lastElement_isSome (elements : List AnnotatedElement) (dbName : String) :
    (lastElement elements dbName).isSome = true ↔
      dbName ≠ "" ∧ ∃ element ∈ elements, element.validates = true ∧ element.dbName = dbName := by
  rw [lastElement, List.find?_isSome]
  constructor
  · rintro ⟨element, member, holds⟩
    rw [Bool.and_eq_true, AnnotatedElement.taken, Bool.and_eq_true, Bool.not_eq_true',
      String.isEmpty_eq_false_iff, beq_iff_eq] at holds
    refine ⟨?_, element, List.mem_reverse.mp member, holds.1.1, holds.2⟩
    rw [← holds.2]
    exact holds.1.2
  · rintro ⟨nonempty, element, member, valid, same⟩
    refine ⟨element, List.mem_reverse.mpr member, ?_⟩
    rw [Bool.and_eq_true, AnnotatedElement.taken, Bool.and_eq_true, Bool.not_eq_true',
      String.isEmpty_eq_false_iff, beq_iff_eq, same]
    exact ⟨⟨valid, nonempty⟩, rfl⟩

/-- The maps that the elements denote: for each name of a database what the last
element with that name says. -/
def denoted (toUpperCase : String → String) (elements : List AnnotatedElement) : KtAutoSqls where
  tablesMapping := fun dbName => (lastElement elements dbName).map fun element =>
    valuesOf toUpperCase TypeConfig.typeDbCreateTable element.enclosedElements
  versionsMapping := fun dbName => (lastElement elements dbName).map AnnotatedElement.dbVersion
  pathMapping := fun dbName => (lastElement elements dbName).map fun element =>
    lastOf toUpperCase TypeConfig.typeDbPath element.enclosedElements
  updateTableMapping := fun dbName => (lastElement elements dbName).map fun element =>
    lastOf toUpperCase TypeConfig.typeDbTableUpdate element.enclosedElements
  deleteTableMapping := fun dbName => (lastElement elements dbName).map fun element =>
    lastOf toUpperCase TypeConfig.typeDbTableDelete element.enclosedElements

/-! ## What is appended -/

section Emission

variable (toUpperCase : String → String)

/-- The statements for an element that is taken. -/
def statementsOf (element : AnnotatedElement) (index : Nat) : List Emitted :=
  .declare (tablesVariable index) ::
    (valuesOf toUpperCase TypeConfig.typeDbCreateTable element.enclosedElements).map
      (.add (tablesVariable index)) ++
    [.putTables element.dbName (tablesVariable index),
      .putVersion element.dbName element.dbVersion,
      .putText .path element.dbName
        (lastOf toUpperCase TypeConfig.typeDbPath element.enclosedElements),
      .putText .updateTable element.dbName
        (lastOf toUpperCase TypeConfig.typeDbTableUpdate element.enclosedElements),
      .putText .deleteTable element.dbName
        (lastOf toUpperCase TypeConfig.typeDbTableDelete element.enclosedElements)]

/-- The statements for elements, the first of which has the number. -/
def statements : List AnnotatedElement → Nat → List Emitted
  | [], _ => []
  | element :: rest, index =>
      (if element.taken then statementsOf toUpperCase element index else []) ++
        statements rest (index + 1)

/-- What a field adds to the values of a type. -/
def valueOf (type : Int) (field : Option ModuleDBVariable) : List String :=
  valuesOf toUpperCase type [field]

theorem valuesOf_cons (type : Int) (field : Option ModuleDBVariable)
    (rest : List (Option ModuleDBVariable)) :
    valuesOf toUpperCase type (field :: rest) =
      valueOf toUpperCase type field ++ valuesOf toUpperCase type rest := by
  unfold valueOf valuesOf
  rw [← List.filterMap_append, List.singleton_append]

theorem getD_getLast_append {first : List String} (short : first.length ≤ 1)
    (second : List String) (value : String) :
    (first ++ second).getLast?.getD value = second.getLast?.getD (first.getLast?.getD value) := by
  match first, short with
  | [], _ => rfl
  | [other], _ =>
      rw [List.singleton_append, List.getLast?_cons]
      rfl

theorem valueOf_length (type : Int) (field : Option ModuleDBVariable) :
    (valueOf toUpperCase type field).length ≤ 1 :=
  List.length_filterMap_le _ _

/-- A turn of the loop over the fields. -/
theorem parseField_eq (index : Nat) (parsing : Parsing) (field : Option ModuleDBVariable) :
    parseField toUpperCase index parsing field =
      { constructorCode := parsing.constructorCode ++
          (valueOf toUpperCase TypeConfig.typeDbCreateTable field).map
            (.add (tablesVariable index))
        dbPath := (valueOf toUpperCase TypeConfig.typeDbPath field).getLast?.getD parsing.dbPath
        updates :=
          (valueOf toUpperCase TypeConfig.typeDbTableUpdate field).getLast?.getD parsing.updates
        deletes :=
          (valueOf toUpperCase TypeConfig.typeDbTableDelete field).getLast?.getD
            parsing.deletes } := by
  rcases parsing with ⟨constructorCode, dbPath, updates, deletes⟩
  cases field with
  | none =>
      unfold valueOf valuesOf
      rw [parseField]
      simp only [List.filterMap_cons, Option.bind_none, List.filterMap_nil, List.map_nil,
        List.append_nil, List.getLast?_nil, Option.getD_none]
  | some path =>
      rcases path with ⟨text, type⟩
      have single : ∀ wanted, valueOf toUpperCase wanted (some ⟨text, type⟩) =
          if type = wanted ∧ (toUpperCase text).isEmpty = false then [toUpperCase text] else [] := by
        intro wanted
        unfold valueOf valuesOf
        by_cases fits : type = wanted ∧ (toUpperCase text).isEmpty = false
        · rw [if_pos fits, List.filterMap_cons_some (by rw [Option.bind_some, if_pos fits]),
            List.filterMap_nil]
        · rw [if_neg fits, List.filterMap_cons_none (by rw [Option.bind_some, if_neg fits]),
            List.filterMap_nil]
      rw [single, single, single, single, parseField]
      cases nonempty : (toUpperCase text).isEmpty with
      | true => simp
      | false =>
          -- Each test concerns one variable of the loop only.
          simp only [and_true, Bool.false_eq_true, if_false]
          split_ifs <;>
            simp only [List.map_cons, List.map_nil, List.append_nil, List.getLast?_singleton,
              List.getLast?_nil, Option.getD_some, Option.getD_none]

/-- The loop over the fields. -/
theorem foldl_parseField (index : Nat) (fields : List (Option ModuleDBVariable))
    (parsing : Parsing) :
    fields.foldl (parseField toUpperCase index) parsing =
      { constructorCode := parsing.constructorCode ++
          (valuesOf toUpperCase TypeConfig.typeDbCreateTable fields).map
            (.add (tablesVariable index))
        dbPath := (valuesOf toUpperCase TypeConfig.typeDbPath fields).getLast?.getD parsing.dbPath
        updates :=
          (valuesOf toUpperCase TypeConfig.typeDbTableUpdate fields).getLast?.getD parsing.updates
        deletes :=
          (valuesOf toUpperCase TypeConfig.typeDbTableDelete fields).getLast?.getD
            parsing.deletes } := by
  induction fields generalizing parsing with
  | nil =>
      rw [List.foldl_nil]
      simp only [valuesOf, List.filterMap_nil, List.map_nil, List.append_nil, List.getLast?_nil,
        Option.getD_none]
  | cons field rest ih =>
      rw [List.foldl_cons, ih, parseField_eq]
      simp only [valuesOf_cons, List.map_append, List.append_assoc,
        getD_getLast_append (valueOf_length toUpperCase _ field)]

/-- The processor appends the statements of the elements that are taken. -/
theorem findAndParseTargets_eq (elements : List AnnotatedElement) (index : Nat)
    (file : List Emitted) :
    findAndParseTargets toUpperCase elements index file =
      file ++ statements toUpperCase elements index := by
  induction elements generalizing index file with
  | nil => rw [findAndParseTargets, statements, List.append_nil]
  | cons element rest ih =>
      rw [findAndParseTargets, ih, statements, ← List.append_assoc]
      congr 1
      unfold AnnotatedElement.taken
      cases element.validates with
      | false => exact (List.append_nil file).symm
      | true =>
          cases element.dbName.isEmpty with
          | true => exact (List.append_nil file).symm
          | false =>
              simp only [parseModuleDB, foldl_parseField, statementsOf, lastOf, Bool.not_true,
                Bool.not_false, Bool.and_true, Bool.false_eq_true, if_false, if_true,
                List.append_assoc, List.cons_append, List.nil_append]

end Emission

/-! ## Running what is appended -/

theorem executeAll_append (first second : List Emitted) (state : Instance) :
    executeAll (first ++ second) state =
      (executeAll first state).bind (executeAll second) :=
  List.foldlM_append

theorem executeAll_cons (statement : Emitted) (rest : List Emitted) (state : Instance) :
    executeAll (statement :: rest) state = (statement.execute state).bind (executeAll rest) :=
  rfl

theorem executeAll_nil (state : Instance) : executeAll [] state = some state := rfl

theorem tablesVariable_inj {first second : Nat}
    (same : tablesVariable first = tablesVariable second) : first = second := by
  have numbers := congrArg String.toList same
  rw [tablesVariable, tablesVariable, String.toList_append, String.toList_append] at numbers
  exact toString_nat_inj (String.toList_inj.mp (List.append_cancel_left numbers))

/-- The values are added to the list of the variable. -/
theorem executeAll_add (name : String) (values list : List String) (state : Instance) :
    executeAll (values.map (.add name))
        { state with locals := Function.update state.locals name (some list) } =
      some { state with locals := Function.update state.locals name (some (list ++ values)) } := by
  induction values generalizing list with
  | nil => rw [List.map_nil, executeAll_nil, List.append_nil]
  | cons value rest ih =>
      simp only [List.map_cons, executeAll_cons, Emitted.execute, Function.update_self,
        Option.map_some, Option.bind_some, Function.update_idem]
      rw [ih, List.append_assoc, List.singleton_append]

section Running

variable (toUpperCase : String → String)

/-- The maps hold what the elements so far denote. -/
structure Denotes (elements : List AnnotatedElement) (state : Instance) : Prop where
  fresh : ∀ index, elements.length ≤ index → state.locals (tablesVariable index) = none
  tables : ∃ tables, state.tablesMapping = some tables ∧ ∀ dbName,
    (∀ name, tables dbName = some name → (state.locals name).isSome = true) ∧
      (tables dbName).bind state.locals = (lastElement elements dbName).map fun element =>
        valuesOf toUpperCase TypeConfig.typeDbCreateTable element.enclosedElements
  versions : state.versionsMapping =
    some fun dbName => (lastElement elements dbName).map AnnotatedElement.dbVersion
  texts : ∀ mapping, state.textMappings mapping =
    some fun dbName => (lastElement elements dbName).map fun element =>
      lastOf toUpperCase mapping.type element.enclosedElements

variable {toUpperCase} {elements : List AnnotatedElement} {element : AnnotatedElement}
  {state : Instance}

/-- An element that is passed over changes nothing. -/
theorem Denotes.passed (denotes : Denotes toUpperCase elements state)
    (passed : element.taken = false) : Denotes toUpperCase (elements ++ [element]) state := by
  have same : ∀ dbName, lastElement (elements ++ [element]) dbName = lastElement elements dbName := by
    intro dbName
    rw [lastElement_append, passed, if_neg (fun both => Bool.false_ne_true both.1)]
  constructor
  · intro index bound
    rw [List.length_append] at bound
    exact denotes.fresh index (by omega)
  · simp only [same]
    exact denotes.tables
  · simp only [same]
    exact denotes.versions
  · simp only [same]
    exact denotes.texts

theorem map_lastElement_append {α : Type} (taken : element.taken = true)
    (f : AnnotatedElement → α) :
    (fun dbName => (lastElement (elements ++ [element]) dbName).map f) =
      Function.update (fun dbName => (lastElement elements dbName).map f) element.dbName
        (some (f element)) := by
  funext dbName
  rw [lastElement_append, taken, Function.update_apply]
  by_cases here : dbName = element.dbName
  · rw [if_pos ⟨rfl, here.symm⟩, if_pos here, Option.map_some]
  · rw [if_neg (fun both => here both.2.symm), if_neg here]

/-- The statements of an element that is taken compile, and put what it denotes. -/
theorem Denotes.taken (denotes : Denotes toUpperCase elements state)
    (taken : element.taken = true) :
    ∃ next, executeAll (statementsOf toUpperCase element elements.length) state = some next ∧
      Denotes toUpperCase (elements ++ [element]) next := by
  rcases denotes with ⟨fresh, ⟨tables, holdsTables, references⟩, versions, texts⟩
  have free := fresh elements.length (Nat.le_refl _)
  set name := tablesVariable elements.length with nameEq
  set creates := valuesOf toUpperCase TypeConfig.typeDbCreateTable element.enclosedElements
    with createsEq
  have declares : (Emitted.declare name).execute state =
      some { state with locals := Function.update state.locals name (some []) } := by
    rw [Emitted.execute, free]
    rfl
  have adds := executeAll_add name creates [] state
  rw [List.nil_append] at adds
  have others : TextMapping.updateTable ≠ .path ∧ TextMapping.deleteTable ≠ .path ∧
      TextMapping.deleteTable ≠ .updateTable := by decide
  -- The puts, after the list of the element is complete.
  have runs : executeAll (statementsOf toUpperCase element elements.length) state =
      some
        { locals := Function.update state.locals name (some creates)
          tablesMapping := some (Function.update tables element.dbName (some name))
          versionsMapping := some (Function.update
            (fun dbName => (lastElement elements dbName).map AnnotatedElement.dbVersion)
            element.dbName (some element.dbVersion))
          textMappings := fun mapping => some (Function.update
            (fun dbName => (lastElement elements dbName).map fun element =>
              lastOf toUpperCase mapping.type element.enclosedElements)
            element.dbName (some (lastOf toUpperCase mapping.type element.enclosedElements))) } := by
    rw [statementsOf, List.cons_append, executeAll_cons, ← nameEq, declares, Option.bind_some,
      executeAll_append, ← createsEq, adds, Option.bind_some]
    simp only [executeAll_cons, executeAll_nil, Emitted.execute, Function.update_self, Option.isSome_some,
      if_true, holdsTables, versions, Option.map_some, Option.bind_some, texts,
      Function.update_of_ne others.1, Function.update_of_ne others.2.1,
      Function.update_of_ne others.2.2]
    congr 2
    funext mapping
    cases mapping with
    | path => rfl
    | updateTable => rfl
    | deleteTable => rfl
  refine ⟨_, runs, ?_⟩
  constructor
  · intro index bound
    rw [List.length_append, List.length_singleton] at bound
    have apart : tablesVariable index ≠ name := by
      intro same
      have equal := tablesVariable_inj same
      omega
    exact (Function.update_of_ne apart _ _).trans (fresh index (by omega))
  · refine ⟨_, rfl, ?_⟩
    intro dbName
    dsimp only
    rw [lastElement_append, taken]
    by_cases here : dbName = element.dbName
    · subst here
      rw [Function.update_self, if_pos ⟨rfl, rfl⟩, Option.bind_some, Function.update_self]
      refine ⟨?_, rfl⟩
      intro other same
      cases same
      rw [Function.update_self]
      rfl
    · rw [Function.update_of_ne here, if_neg (fun both => here both.2.symm)]
      have apart : ∀ other, tables dbName = some other → other ≠ name := by
        intro other found same
        have there := (references dbName).1 other found
        rw [same, free] at there
        cases there
      constructor
      · intro other found
        rw [Function.update_of_ne (apart other found)]
        exact (references dbName).1 other found
      · rw [← (references dbName).2]
        cases found : tables dbName with
        | none => rfl
        | some other => exact Function.update_of_ne (apart other found) _ _
  · rw [map_lastElement_append taken]
  · intro mapping
    rw [map_lastElement_append taken]

/-- The run over the elements that are left. -/
theorem Denotes.run (rest : List AnnotatedElement) (denotes : Denotes toUpperCase elements state) :
    ∃ next, executeAll (statements toUpperCase rest elements.length) state = some next ∧
      Denotes toUpperCase (elements ++ rest) next := by
  induction rest generalizing elements state with
  | nil =>
      rw [List.append_nil]
      exact ⟨state, rfl, denotes⟩
  | cons element rest ih =>
      have split : elements ++ element :: rest = (elements ++ [element]) ++ rest := by
        rw [List.append_assoc, List.singleton_append]
      have number : elements.length + 1 = (elements ++ [element]).length := by
        rw [List.length_append, List.length_singleton]
      rw [statements, executeAll_append, split, number]
      cases taken : element.taken with
      | false => exact ih (denotes.passed taken)
      | true =>
          rcases denotes.taken taken with ⟨middle, runs, denotesMiddle⟩
          rcases ih denotesMiddle with ⟨next, later, denotesNext⟩
          refine ⟨next, ?_, denotesNext⟩
          rw [if_pos rfl, runs, Option.bind_some, later]

/-- The first statements of the constructor make the maps. -/
theorem denotes_start : ∃ state, executeAll
    [.newTables, .newVersions, .newText .path, .newText .updateTable, .newText .deleteTable]
      Instance.blank = some state ∧ Denotes toUpperCase [] state := by
  refine ⟨_, rfl, fun index _ => rfl, ⟨_, rfl, fun dbName => ⟨?_, rfl⟩⟩, rfl, ?_⟩
  · intro name impossible
    cases impossible
  · intro mapping
    cases mapping with
    | path => rfl
    | updateTable => rfl
    | deleteTable => rfl

end Running

/-! ## No variable is declared twice -/

/-- The variable that a statement declares. -/
def Emitted.declared : Emitted → Option String
  | declare name => some name
  | _ => none

theorem declared_statementsOf (toUpperCase : String → String) (element : AnnotatedElement)
    (index : Nat) :
    (statementsOf toUpperCase element index).filterMap Emitted.declared =
      [tablesVariable index] := by
  have adds : ((valuesOf toUpperCase TypeConfig.typeDbCreateTable element.enclosedElements).map
      (Emitted.add (tablesVariable index))).filterMap Emitted.declared = [] := by
    rw [List.filterMap_map]
    exact List.filterMap_eq_nil_iff.mpr fun value _ => rfl
  have declares : Emitted.declared (.declare (tablesVariable index)) =
      some (tablesVariable index) := rfl
  rw [statementsOf, List.cons_append, List.filterMap_cons_some declares, List.filterMap_append,
    adds]
  rfl

/-- A variable that is declared belongs to the number of an element. -/
theorem mem_declared (toUpperCase : String → String) (elements : List AnnotatedElement)
    (index : Nat) {name : String}
    (member : name ∈ (statements toUpperCase elements index).filterMap Emitted.declared) :
    ∃ number, index ≤ number ∧ name = tablesVariable number := by
  induction elements generalizing index with
  | nil => cases member
  | cons element rest ih =>
      rw [statements, List.filterMap_append] at member
      rcases List.mem_append.mp member with here | later
      · refine ⟨index, Nat.le_refl _, ?_⟩
        split at here
        · rw [declared_statementsOf] at here
          exact List.mem_singleton.mp here
        · cases here
      · rcases ih (index + 1) later with ⟨number, bound, same⟩
        exact ⟨number, by omega, same⟩

theorem declared_nodup (toUpperCase : String → String) (elements : List AnnotatedElement)
    (index : Nat) :
    ((statements toUpperCase elements index).filterMap Emitted.declared).Nodup := by
  induction elements generalizing index with
  | nil => exact List.nodup_nil
  | cons element rest ih =>
      rw [statements, List.filterMap_append]
      split
      · rw [declared_statementsOf, List.singleton_append, List.nodup_cons]
        refine ⟨?_, ih (index + 1)⟩
        intro later
        rcases mem_declared toUpperCase rest (index + 1) later with ⟨number, bound, same⟩
        have equal := tablesVariable_inj same
        omega
      · exact ih (index + 1)

/-! ## The class -/

theorem process_eq (toUpperCase : String → String) (elements : List AnnotatedElement) :
    process toUpperCase elements =
      [.newTables, .newVersions, .newText .path, .newText .updateTable, .newText .deleteTable] ++
        statements toUpperCase elements 0 :=
  findAndParseTargets_eq toUpperCase elements 0 _

/-- The constructor compiles, and its maps are those that the elements denote. -/
theorem executeAll_process (toUpperCase : String → String) (elements : List AnnotatedElement) :
    ∃ state, executeAll (process toUpperCase elements) Instance.blank = some state ∧
      state.maps = some (denoted toUpperCase elements) := by
  have started : ∃ state, executeAll
      [.newTables, .newVersions, .newText .path, .newText .updateTable, .newText .deleteTable]
        Instance.blank = some state ∧ Denotes toUpperCase [] state := denotes_start
  rcases started with ⟨start, makes, denotesStart⟩
  rcases denotesStart.run elements with ⟨state, runs, denotes⟩
  rcases denotes with ⟨-, ⟨tables, holdsTables, references⟩, versions, texts⟩
  refine ⟨state, ?_, ?_⟩
  · rw [process_eq, executeAll_append, makes]
    exact runs
  · have lists : (fun dbName => (tables dbName).bind state.locals) =
        (denoted toUpperCase elements).tablesMapping := by
      funext dbName
      exact (references dbName).2
    simp only [Instance.maps, holdsTables, versions, texts, Option.bind_eq_bind,
      Option.bind_some, lists]
    rfl

/-- For every sequence of annotated elements, the constructor that is written
compiles, its five maps are those that the elements denote, their keys are the
names of the valid elements, and no variable is declared twice. -/
theorem process_denotes (toUpperCase : String → String) (elements : List AnnotatedElement) :
    (∃ state, executeAll (process toUpperCase elements) Instance.blank = some state ∧
      state.maps = some (denoted toUpperCase elements)) ∧
      (∀ dbName, (lastElement elements dbName).isSome = true ↔
        dbName ≠ "" ∧ ∃ element ∈ elements, element.validates = true ∧ element.dbName = dbName) ∧
      ((process toUpperCase elements).filterMap Emitted.declared).Nodup := by
  refine ⟨executeAll_process toUpperCase elements, lastElement_isSome elements, ?_⟩
  rw [process_eq, List.filterMap_append]
  exact declared_nodup toUpperCase elements 0

end Processor
end ModuleDatabase
