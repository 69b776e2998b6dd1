import ModuleDatabase.Base.Text

namespace ModuleDatabase
namespace Migration

open Text

/-!
# The configuration

The annotation processor generates a class with five maps, which
`ModuleReflectTool` reads by reflection.  A map without an entry for the
database counts as no value, as every exception on the way does.

The update and delete directives are one text for each database.  A text with
neither `;` nor `:` names tables for every version; otherwise the first entry
`version:names` with the given version decides.
-/

/-- The maps of the generated class `kt_auto_sqls`. -/
structure KtAutoSqls where
  tablesMapping : String → Option (List String)
  versionsMapping : String → Option Int
  pathMapping : String → Option String
  updateTableMapping : String → Option String
  deleteTableMapping : String → Option String

/-- The maps with these entries for every database. -/
def KtAutoSqls.ofEntries (statements : List String) (version : Int)
    (updates deletes : Option String) : KtAutoSqls where
  tablesMapping := fun _ => some statements
  versionsMapping := fun _ => some version
  pathMapping := fun _ => none
  updateTableMapping := fun _ => updates
  deleteTableMapping := fun _ => deletes

/-- The tables that a directive text names for a version. -/
def directives (value : String) (dbVersion : Int) : Option (List String) :=
  if value.isEmpty then none
  else if !contains value ";" && !contains value ":" then some (split ',' value)
  else
    (split ';' value).findSome? fun version =>
      if startsWith version (toString dbVersion ++ ":") then
        ((split ':' version)[1]?).map (split ',')
      else none

namespace ModuleReflectTool

/-- `getCreateTableSqls`. -/
def getCreateTableSqls (sqls : KtAutoSqls) (dbName : String) : Option (List String) :=
  sqls.tablesMapping dbName

/-- `getDatabaseUpdateTables`. -/
def getDatabaseUpdateTables (sqls : KtAutoSqls) (dbName : String) (dbVersion : Int) :
    Option (List String) :=
  (sqls.updateTableMapping dbName).bind fun value => directives value dbVersion

/-- `getDatabaseDeleteTables`. -/
def getDatabaseDeleteTables (sqls : KtAutoSqls) (dbName : String) (dbVersion : Int) :
    Option (List String) :=
  (sqls.deleteTableMapping dbName).bind fun value => directives value dbVersion

end ModuleReflectTool

end Migration
end ModuleDatabase
