import ModuleDatabase.Migration.Config

namespace ModuleDatabase
namespace Processor

/-!
# `ModuleProcessor`

The annotation processor writes a class whose constructor fills five maps.  It
visits the annotated elements in order and appends statements to the
constructor; an element that does not validate, or has no database name, is
passed over, but it takes a number all the same.

What is appended is kept as data here, one constructor for each template of the
source.  A template refers to the list of an element by the name of a local
variable, which is built from the number.  `toUpperCase` is the one of the
platform, for the root locale.
-/

namespace TypeConfig

def typeDbCreateTable : Int := 1

def typeDbPath : Int := 2

def typeDbTableUpdate : Int := 3

def typeDbTableDelete : Int := 4

end TypeConfig

/-- The annotation `ModuleDBVariable` of a field. -/
structure ModuleDBVariable where
  value : String
  type : Int
  deriving DecidableEq, Repr

/-- An element with the annotation `ModuleDBConfig`, as the processor sees it:
whether it validates, the values of the annotation, and the annotations of what
it encloses. -/
structure AnnotatedElement where
  validates : Bool
  dbName : String
  dbVersion : Int
  enclosedElements : List (Option ModuleDBVariable)
  deriving DecidableEq, Repr

/-- The maps of the generated class whose values are texts. -/
inductive TextMapping where
  | path
  | updateTable
  | deleteTable
  deriving DecidableEq, Repr

/-- A statement of the generated constructor. -/
inductive Emitted where
  /-- `this.tablesMapping = HashMap<String,Any>()`. -/
  | newTables
  /-- `this.versionsMapping = HashMap<String,Int>()`. -/
  | newVersions
  | newText (mapping : TextMapping)
  /-- `val name = ArrayList<String>()`. -/
  | declare (name : String)
  /-- `name.add(value)`. -/
  | add (name value : String)
  /-- `tablesMapping.put(dbName,name)`. -/
  | putTables (dbName name : String)
  | putVersion (dbName : String) (dbVersion : Int)
  | putText (mapping : TextMapping) (dbName value : String)
  deriving DecidableEq, Repr

/-- The local variable of the element with this number. -/
def tablesVariable (index : Nat) : String := "tables" ++ toString index

/-- The variables of `parseModuleDB`, with the constructor so far. -/
structure Parsing where
  constructorCode : List Emitted
  dbPath : String
  updates : String
  deletes : String

section Processor

variable (toUpperCase : String → String)

/-- A turn of the loop in `parseModuleDB`. -/
def parseField (index : Nat) (parsing : Parsing) : Option ModuleDBVariable → Parsing
  | none => parsing
  | some path =>
      let value := toUpperCase path.value
      if value.isEmpty then parsing
      else
        let parsing :=
          if path.type = TypeConfig.typeDbCreateTable then
            { parsing with
              constructorCode := parsing.constructorCode ++ [.add (tablesVariable index) value] }
          else parsing
        let parsing :=
          if path.type = TypeConfig.typeDbPath then { parsing with dbPath := value } else parsing
        let parsing :=
          if path.type = TypeConfig.typeDbTableUpdate then { parsing with updates := value }
          else parsing
        if path.type = TypeConfig.typeDbTableDelete then { parsing with deletes := value }
        else parsing

/-- `parseModuleDB`. -/
def parseModuleDB (dbName : String) (dbVersion : Int) (allFile : List (Option ModuleDBVariable))
    (constructorCode : List Emitted) (index : Nat) : List Emitted :=
  let parsed := allFile.foldl (parseField toUpperCase index) ⟨constructorCode, "", "", ""⟩
  parsed.constructorCode ++
    [.putTables dbName (tablesVariable index), .putVersion dbName dbVersion,
      .putText .path dbName parsed.dbPath, .putText .updateTable dbName parsed.updates,
      .putText .deleteTable dbName parsed.deletes]

/-- The loop of `findAndParseTargets`, from an element on. -/
def findAndParseTargets : List AnnotatedElement → Nat → List Emitted → List Emitted
  | [], _, file => file
  | element :: rest, index, file =>
      let file :=
        if !element.validates then file
        else if element.dbName.isEmpty then file
        else
          parseModuleDB toUpperCase element.dbName element.dbVersion element.enclosedElements
            (file ++ [.declare (tablesVariable index)]) index
      findAndParseTargets rest (index + 1) file

/-- `process`, in the round that writes the class. -/
def process (elements : List AnnotatedElement) : List Emitted :=
  findAndParseTargets toUpperCase elements 0
    [.newTables, .newVersions, .newText .path, .newText .updateTable, .newText .deleteTable]

end Processor

/-! ## Running the constructor -/

/-- An instance of the generated class while its constructor runs.  The map of
the tables holds references to the lists, that is, the names of the variables. -/
structure Instance where
  locals : String → Option (List String)
  tablesMapping : Option (String → Option String)
  versionsMapping : Option (String → Option Int)
  textMappings : TextMapping → Option (String → Option String)

/-- Before the constructor runs. -/
def Instance.blank : Instance := ⟨fun _ => none, none, none, fun _ => none⟩

/-- A statement of the constructor; none if it does not compile, since it uses a
variable that is not declared or declares one again, or a map that is not there. -/
def Emitted.execute (state : Instance) : Emitted → Option Instance
  | newTables => some { state with tablesMapping := some fun _ => none }
  | newVersions => some { state with versionsMapping := some fun _ => none }
  | newText mapping => some
      { state with textMappings := Function.update state.textMappings mapping (some fun _ => none) }
  | declare name =>
      if (state.locals name).isSome then none
      else some { state with locals := Function.update state.locals name (some []) }
  | add name value =>
      (state.locals name).map fun list =>
        { state with locals := Function.update state.locals name (some (list ++ [value])) }
  | putTables dbName name =>
      if (state.locals name).isSome then
        state.tablesMapping.map fun tables =>
          { state with tablesMapping := some (Function.update tables dbName (some name)) }
      else none
  | putVersion dbName dbVersion =>
      state.versionsMapping.map fun versions =>
        { state with versionsMapping := some (Function.update versions dbName (some dbVersion)) }
  | putText mapping dbName value =>
      (state.textMappings mapping).map fun texts =>
        { state with
          textMappings := Function.update state.textMappings mapping
            (some (Function.update texts dbName (some value))) }

/-- The statements of a constructor, in order. -/
def executeAll (statements : List Emitted) (state : Instance) : Option Instance :=
  statements.foldlM Emitted.execute state

/-- What the maps hold, if they are all there. -/
def Instance.maps (state : Instance) : Option Migration.KtAutoSqls := do
  let tables ← state.tablesMapping
  let versions ← state.versionsMapping
  let paths ← state.textMappings .path
  let updates ← state.textMappings .updateTable
  let deletes ← state.textMappings .deleteTable
  return {
    tablesMapping := fun dbName => (tables dbName).bind state.locals
    versionsMapping := versions
    pathMapping := paths
    updateTableMapping := updates
    deleteTableMapping := deletes }

end Processor
end ModuleDatabase
