import ModuleDatabase.Base.Builder

namespace ModuleDatabase
namespace ModuleDBSqlUtils

/-!
# `ModuleDBSqlUtils`

The functions build texts with a `StringBuilder`, which is the list of the
characters so far; a null result is none.  A null among the elements of an array
is appended as the text `null`.
-/

abbrev StringBuilder := List Char

namespace StringBuilder

def append (builder : StringBuilder) (text : String) : StringBuilder := builder ++ text.toList

/-- The characters from `start` up to `stop` are taken out. -/
def delete (builder : StringBuilder) (start stop : Nat) : StringBuilder :=
  builder.take start ++ builder.drop stop

end StringBuilder

/-- What `append` makes of an element that may be null. -/
def textOf {α : Type} [ToString α] (element : Option α) : String :=
  (element.map toString).getD "null"

def buildStringWithStrArray (arrays : List (Option String)) : Option String :=
  if arrays.isEmpty then none
  else
    let builder := arrays.foldl
      (fun builder arr => StringBuilder.append (StringBuilder.append builder (textOf arr)) "','")
      "'".toList
    some (String.ofList (StringBuilder.delete builder (builder.length - 2) builder.length))

/-- The elements are of any type that has texts. -/
def buildStringWithList {α : Type} [ToString α] (list : Option (List α)) : Option String :=
  match list with
  | none => none
  | some list =>
      if list.isEmpty then none
      else
        some (String.ofList (forEachIndexed list ",".toList fun index s builder =>
          StringBuilder.append (StringBuilder.append builder (toString s))
            (if index = list.length - 1 then "'" else "','")))

/-- `buildPlaceholders`: the range `0..count` has both of its ends. -/
def buildPlaceholders (builder : StringBuilder) (count : Nat) : StringBuilder :=
  (List.range (count + 1)).foldl
    (fun builder (i : Nat) =>
      if (i : Int) < (count : Int) - 1 then StringBuilder.append builder "?,"
      else StringBuilder.append builder "?")
    builder

def buildInsertSql (table : String) (columns : List String) : Option StringBuilder :=
  if table.isEmpty || columns.isEmpty then none
  else
    let builder := "INSERT INTO ".toList
    let builder := StringBuilder.append (StringBuilder.append builder table) " ("
    let builder := forEachIndexed columns builder fun index column builder =>
      StringBuilder.append (StringBuilder.append builder column)
        (if index = columns.length - 1 then "" else ",")
    let builder := StringBuilder.append builder ") VALUES ("
    let builder := buildPlaceholders builder columns.length
    some (StringBuilder.append builder ")")

/-- `buildDeleteSql`: the columns only decide whether there is a condition. -/
def buildDeleteSql (table : String) (columns : List String) : Option StringBuilder :=
  if table.isEmpty then none
  else
    let builder := "DELETE FROM ".toList
    let builder := StringBuilder.append builder table
    some (if columns.isEmpty then builder else StringBuilder.append builder " WHERE ")

def buildColumn (builder : StringBuilder) (tableAlias column : String) : StringBuilder :=
  StringBuilder.append (StringBuilder.append (StringBuilder.append builder tableAlias) ".") column

def buildColumnsEqValue (builder : StringBuilder) (tableAlias : String) (columns : List String) :
    StringBuilder :=
  if tableAlias.isEmpty || columns.isEmpty then builder
  else
    forEachIndexed columns builder fun index column builder =>
      StringBuilder.append (StringBuilder.append (buildColumn builder tableAlias column) "=?")
        (if index = columns.length - 1 then "" else " AND ")

def buildUpdateSql (table : String) (whereColumns updateColumns : List String) :
    Option StringBuilder :=
  if table.isEmpty || updateColumns.isEmpty then none
  else
    let builder := "UPDATE ".toList
    let builder := StringBuilder.append (StringBuilder.append builder table) " SET "
    let builder := forEachIndexed updateColumns builder fun index column builder =>
      StringBuilder.append (StringBuilder.append (StringBuilder.append builder column) "=?")
        (if index = updateColumns.length - 1 then "" else ",")
    some (if whereColumns.isEmpty then builder
      else buildColumnsEqValue (StringBuilder.append builder " WHERE ") table whereColumns)

end ModuleDBSqlUtils
end ModuleDatabase
