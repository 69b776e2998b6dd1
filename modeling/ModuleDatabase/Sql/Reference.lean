import Mathlib.Data.List.TakeWhile
import ModuleDatabase.Sql.Engine

namespace ModuleDatabase
namespace Sql
namespace Reference

open Text

/-!
# An engine that reads texts

A small engine with integers as values.  It reads the statements and queries of
the program as they are written there, and `CREATE TABLE` statements of the
same form; any other text is a syntax error.  It keeps the laws of
`Engine.Documented`, so these are not contradictory, and on the texts that it
reads it behaves as SQLite does.
-/

/-! ## Reading -/

/-- The text behind a beginning. -/
def strip : List Char → List Char → Option (List Char)
  | [], text => some text
  | _ :: _, [] => none
  | c :: pattern, d :: text => if c = d then strip pattern text else none

/-- Reserved words, in lower case. -/
def keywords : List String :=
  ["add", "all", "alter", "and", "as", "autoincrement", "between", "case", "check", "collate",
    "commit", "constraint", "create", "default", "deferrable", "delete", "distinct", "drop",
    "else", "escape", "exists", "foreign", "from", "group", "having", "in", "index", "insert",
    "intersect", "into", "is", "isnull", "join", "limit", "not", "notnull", "null", "on", "or",
    "order", "primary", "references", "returning", "select", "set", "sqlite_sequence", "table",
    "then", "to", "transaction", "union", "unique", "update", "using", "values", "when", "where"]

def keyword (name : String) : Bool := keywords.contains (fold name)

def plain (name : String) : Bool := isWord name && !keyword name

/-- A name, and what follows it. -/
def readName (text : List Char) : Option (String × List Char) :=
  let name := String.ofList (text.takeWhile isWordChar)
  if plain name then some (name, text.dropWhile isWordChar) else none

/-- What stands before a character, and what follows it. -/
def readUpTo (stop : Char) (text : List Char) : Option (String × List Char) :=
  match text.dropWhile fun c => c != stop with
  | [] => none
  | _ :: rest => some (String.ofList (text.takeWhile fun c => c != stop), rest)

/-- A statement ends with the text or with a semicolon. -/
def ends : List Char → Bool
  | [] => true
  | c :: _ => c == ';'

/-- Names between commas. -/
def readNames (text : String) : Option (List String) :=
  if (split ',' text).all plain then some (split ',' text) else none

/-- A column definition. -/
def readColumn (text : String) : Option ColumnDef :=
  match split ' ' text with
  | name :: type :: rest =>
      if plain name && plain type then
        if rest = [] then some ⟨name, type, false, false⟩
        else if rest = ["DEFAULT", "0"] then some ⟨name, type, true, false⟩
        else if rest = ["PRIMARY", "KEY"] then some ⟨name, type, false, true⟩
        else if rest = ["DEFAULT", "0", "PRIMARY", "KEY"] then some ⟨name, type, true, true⟩
        else none
      else none
  | _ => none

/-! ## Tables -/

def columnOf (definition : ColumnDef) : Column where
  name := definition.name
  type := definition.type
  notnull := false
  dflt_value := if definition.default0 then some "0" else none
  pk := if definition.primaryKey then 1 else 0

/-- The keys of the columns that number the rows. -/
def numberedKeys (columns : List Column) : List String :=
  (columns.filter fun column => 0 < column.pk && fold column.type == "integer").map Column.key

/-- The number of the next row. -/
def nextNumber (key : String) (present : List (Row Int)) : Int :=
  (present.filterMap fun row => row key).foldr max 0 + 1

/-- A row with the values that are not given. -/
def complete (columns : List Column) (present : List (Row Int)) (given : List String)
    (values : Row Int) : Row Int := fun key =>
  if key ∈ numberedKeys columns ∧ (key ∈ given → values key = none) then
    some (nextNumber key present)
  else if key ∈ given then values key
  else if key ∈ primaryKey columns then none
  else if columns.any fun column => column.key == key && column.dflt_value == some "0" then some 0
  else none

/-- A row is rejected if a row with its key is there. -/
def accept (columns : List Column) (present : List (Row Int)) (given : List String)
    (values : Row Int) : Option (Row Int) :=
  let row := complete columns present given values
  if (primaryKey columns).any fun key =>
      (row key).isSome && present.any fun other => other key == row key then none
  else some row

/-- Columns that may stand together. -/
def together (columns : List ColumnDef) : Bool :=
  !columns.isEmpty && decide (columns.map fun column => fold column.name).Nodup &&
    decide ((columns.filter ColumnDef.primaryKey).length ≤ 1)

theorem accept_keeps (columns : List Column) (present : List (Row Int)) (given : List String)
    (values row : Row Int) (accepted : accept columns present given values = some row)
    (key : String) (member : key ∈ given)
    (stored : key ∈ numberedKeys columns → values key ≠ none) : row key = values key := by
  unfold accept at accepted
  dsimp only at accepted
  split at accepted
  · cases accepted
  · cases accepted
    have notChosen : ¬ (key ∈ numberedKeys columns ∧ (key ∈ given → values key = none)) :=
      fun both => stored both.1 (both.2 member)
    rw [complete, if_neg notChosen, if_pos member]

theorem accept_numbers (columns : List Column) (present : List (Row Int)) (given : List String)
    (values row : Row Int) (accepted : accept columns present given values = some row)
    (key : String) (member : key ∈ numberedKeys columns) : row key ≠ none := by
  unfold accept at accepted
  dsimp only at accepted
  split at accepted
  · cases accepted
  · cases accepted
    rw [complete]
    split
    · exact Option.some_ne_none _
    · rename_i kept
      rw [not_and, Classical.not_imp] at kept
      rw [if_pos (kept member).1]
      exact (kept member).2

theorem accept_apart (columns : List Column) (present : List (Row Int)) (given : List String)
    (values row : Row Int) (apart : KeysDiffer (primaryKey columns) present)
    (accepted : accept columns present given values = some row) :
    KeysDiffer (primaryKey columns) (present ++ [row]) := by
  unfold accept at accepted
  dsimp only at accepted
  split at accepted
  · cases accepted
  · rename_i free
    cases accepted
    apply List.pairwise_append.mpr
    refine ⟨apart, List.pairwise_singleton _ _, ?_⟩
    intro other inside row last
    rw [List.mem_singleton.mp last]
    intro keyed whole
    rcases List.exists_mem_of_ne_nil _ keyed with ⟨key, member⟩
    refine ⟨key, member, ?_⟩
    intro same
    apply free
    apply List.any_eq_true.mpr
    refine ⟨key, member, ?_⟩
    rw [Bool.and_eq_true, List.any_eq_true]
    refine ⟨?_, other, inside, ?_⟩
    · rw [← same]
      exact Option.isSome_iff_ne_none.mpr (whole key member)
    · rw [same]
      exact beq_self_eq_true _

/-- What column definitions mean; definitions that cannot stand together are
never asked for. -/
def schemaOf (columns : List ColumnDef) : Schema Int :=
  if valid : columns ≠ [] ∧ (columns.map fun column => fold column.name).Nodup then
    { columns := columns.map columnOf
      nonempty := fun empty => valid.1 (List.map_eq_nil_iff.mp empty)
      distinct := by
        rw [List.map_map]
        exact valid.2
      numbered := numberedKeys (columns.map columnOf)
      autoincrement := false
      accept := accept (columns.map columnOf)
      keeps := accept_keeps _
      numbers := accept_numbers _
      apart := accept_apart _ }
  else
    { columns := [⟨"rowid", "INTEGER", false, none, 0⟩]
      nonempty := List.cons_ne_nil _ _
      distinct := List.nodup_singleton _
      numbered := []
      autoincrement := false
      accept := fun _ _ _ => none
      keeps := by
        intro present given values row impossible
        cases impossible
      numbers := by
        intro present given values row impossible
        cases impossible
      apart := by
        intro present given values row apart impossible
        cases impossible }

/-! ## The engine -/

def readDrop (text : List Char) : Option (Stmt Int) := do
  let text ← strip "DROP TABLE IF EXISTS ".toList text
  let (name, text) ← readName text
  if ends text then some (.drop name true) else none

def readDelete (text : List Char) : Option (Stmt Int) := do
  let text ← strip "DELETE FROM ".toList text
  let (name, text) ← readName text
  if ends text then some (.delete name) else none

def readCopy (text : List Char) : Option (Stmt Int) := do
  let text ← strip "INSERT INTO ".toList text
  let (target, text) ← readName text
  let text ← strip " (".toList text
  let (columns, text) ← readUpTo ')' text
  let text ← strip " SELECT ".toList text
  let text ← strip columns.toList text
  let text ← strip " FROM ".toList text
  let (source, text) ← readName text
  let names ← readNames columns
  if ends text then some (.copy target names source) else none

def readCreate (text : List Char) : Option (Stmt Int) := do
  let text ← strip "CREATE TABLE IF NOT EXISTS ".toList text
  let (name, text) ← readName text
  let text ← strip "(".toList (text.dropWhile fun c => c == ' ')
  let (body, text) ← readUpTo ')' text
  let columns ← (split ',' body).mapM readColumn
  if ends text && together columns then some (.create name true (schemaOf columns)) else none

def prepare (sql : String) : Option (Stmt Int) :=
  (readDrop sql.toList).or
    ((readDelete sql.toList).or ((readCopy sql.toList).or (readCreate sql.toList)))

def readTableInfo (text : List Char) : Option Query := do
  let text ← strip "PRAGMA table_info(".toList text
  let (name, text) ← readName text
  if text = [')'] then some (.tableInfo name) else none

def readSelectAll (text : List Char) : Option Query := do
  let text ← strip "SELECT * FROM ".toList text
  let (name, text) ← readName text
  if text = " limit 1".toList then some (.selectAll name) else none

def readCountTables (text : List Char) : Option Query := do
  let text ← strip
    "SELECT COUNT(*) FROM sqlite_master WHERE type='table' AND name='".toList text
  let (name, text) ← readUpTo '\x27' text
  if text = [] then some (.countTables name) else none

def prepareQuery (sql : String) : Option Query :=
  if sql = "select name from sqlite_master where type='table' order by name" then some .allTables
  else (readTableInfo sql.toList).or
    ((readSelectAll sql.toList).or (readCountTables sql.toList))

end Reference

/-- The engine, with any statements that throw. -/
def reference (fails : Nat → String → Bool) : Engine Int where
  keyword := Reference.keyword
  isType := Reference.plain
  prepare := Reference.prepare
  prepareQuery := Reference.prepareQuery
  isInteger := fun _ => true
  schema := Reference.schemaOf
  fails := fails

namespace Reference

open Text

example : prepareQuery "SELECT * FROM A limit 1" = some (.selectAll "A") := by decide

example : (prepare "INSERT INTO A (X) SELECT X FROM B;INSERT").isSome = true := by decide

/-! ## What is read -/

theorem strip_append (pattern text : List Char) : strip pattern (pattern ++ text) = some text := by
  induction pattern with
  | nil =>
      rw [List.nil_append, strip.eq_def]
  | cons c rest ih =>
      rw [List.cons_append, strip, if_pos rfl]
      exact ih

/-- Two beginnings that differ before one of them ends. -/
def differ : List Char → List Char → Bool
  | c :: first, d :: second => if c = d then differ first second else true
  | _, _ => false

theorem strip_of_differ {pattern other : List Char} (differs : differ pattern other = true)
    (text : List Char) : strip pattern (other ++ text) = none := by
  induction pattern generalizing other with
  | nil => cases differs
  | cons c rest ih =>
      cases other with
      | nil => cases differs
      | cons d others =>
          rw [List.cons_append, strip]
          rw [differ] at differs
          split
          · rename_i same
            rw [if_pos same] at differs
            exact ih differs
          · rfl

/-- The text does not begin with a character of a name. -/
def Breaks (text : List Char) : Prop := ∀ c, text.head? = some c → isWordChar c = false

theorem Breaks.nil : Breaks [] := by
  intro c impossible
  cases impossible

theorem Breaks.cons {c : Char} (ordinary : isWordChar c = false) (text : List Char) :
    Breaks (c :: text) := by
  intro d same
  cases same
  exact ordinary

theorem readName_append {name : String} (named : plain name = true) {text : List Char}
    (breaks : Breaks text) : readName (name.toList ++ text) = some (name, text) := by
  have word : isWord name = true := (Bool.and_eq_true_iff.mp named).1
  have chars : ∀ c ∈ name.toList, isWordChar c = true :=
    List.all_eq_true.mp (Bool.and_eq_true_iff.mp word).1
  have taken : (name.toList ++ text).takeWhile isWordChar = name.toList := by
    rw [List.takeWhile_append_of_pos chars]
    cases text with
    | nil => rw [List.takeWhile_nil, List.append_nil]
    | cons c rest =>
        rw [List.takeWhile_cons_of_neg (by rw [breaks c rfl]; decide), List.append_nil]
  have dropped : (name.toList ++ text).dropWhile isWordChar = text := by
    rw [List.dropWhile_append_of_pos chars]
    cases text with
    | nil => rfl
    | cons c rest => rw [List.dropWhile_cons_of_neg (by rw [breaks c rfl]; decide)]
  rw [readName, taken, dropped, String.ofList_toList, named, if_pos rfl]

theorem readUpTo_append {stop : Char} {part : String} (free : stop ∉ part.toList)
    (text : List Char) : readUpTo stop (part.toList ++ stop :: text) = some (part, text) := by
  have chars : ∀ c ∈ part.toList, (c != stop) = true := by
    intro c member
    rw [bne_iff_ne]
    intro same
    rw [same] at member
    exact free member
  have stops : (stop != stop) = false := bne_self_eq_false stop
  have dropped : (part.toList ++ stop :: text).dropWhile (fun c => c != stop) = stop :: text := by
    rw [List.dropWhile_append_of_pos chars, List.dropWhile_cons_of_neg (by rw [stops]; decide)]
  have taken : (part.toList ++ stop :: text).takeWhile (fun c => c != stop) = part.toList := by
    rw [List.takeWhile_append_of_pos chars,
      List.takeWhile_cons_of_neg (by rw [stops]; decide), List.append_nil]
  rw [readUpTo, dropped, taken, String.ofList_toList]

/-! ## Names in lists -/

theorem notMem_of_plain {name : String} (named : plain name = true) {c : Char}
    (ordinary : isWordChar c = false) : c ∉ name.toList := by
  intro member
  have word : isWord name = true := (Bool.and_eq_true_iff.mp named).1
  have char := List.all_eq_true.mp (Bool.and_eq_true_iff.mp word).1 c member
  rw [ordinary] at char
  cases char

/-- A character that is in no text and no separator is not in the joined text. -/
theorem notMem_join {separator : String} {texts : List String} {c : Char}
    (apart : c ∉ separator.toList) (free : ∀ text ∈ texts, c ∉ text.toList) :
    c ∉ (join separator texts).toList := by
  intro member
  rcases mem_join member with inside | ⟨text, among, within⟩
  · exact apart inside
  · exact free text among within

theorem readNames_join {names : List String} (nonempty : names ≠ [])
    (named : ∀ name ∈ names, plain name = true) : readNames (join "," names) = some names := by
  have undone : split ',' (join "," names) = names :=
    split_join nonempty fun name member => notMem_of_plain (named name member) (by decide)
  rw [readNames, undone, if_pos (List.all_eq_true.mpr named)]

/-! ## The statements of the program -/

section Statements

variable {name target source : String} {columns : List String}

theorem readDrop_of_differ {other : String}
    (differs : differ "DROP TABLE IF EXISTS ".toList other.toList = true) (text : String) :
    readDrop (other ++ text).toList = none := by
  rw [readDrop, String.toList_append, strip_of_differ differs]
  rfl

theorem readDelete_of_differ {other : String}
    (differs : differ "DELETE FROM ".toList other.toList = true) (text : String) :
    readDelete (other ++ text).toList = none := by
  rw [readDelete, String.toList_append, strip_of_differ differs]
  rfl

theorem readCopy_of_differ {other : String}
    (differs : differ "INSERT INTO ".toList other.toList = true) (text : String) :
    readCopy (other ++ text).toList = none := by
  rw [readCopy, String.toList_append, strip_of_differ differs]
  rfl

theorem readCreate_of_differ {other : String}
    (differs : differ "CREATE TABLE IF NOT EXISTS ".toList other.toList = true) (text : String) :
    readCreate (other ++ text).toList = none := by
  rw [readCreate, String.toList_append, strip_of_differ differs]
  rfl

theorem prepare_drop (named : plain name = true) :
    prepare ("DROP TABLE IF EXISTS " ++ name) = some (.drop name true) := by
  have reads : readDrop ("DROP TABLE IF EXISTS " ++ name).toList = some (.drop name true) := by
    rw [readDrop, String.toList_append, strip_append, ← List.append_nil name.toList]
    simp only [Option.bind_eq_bind, Option.bind_some, readName_append named Breaks.nil]
    rfl
  rw [prepare, reads, Option.some_or]

theorem prepare_delete (named : plain name = true) :
    prepare ("DELETE FROM " ++ name) = some (.delete name) := by
  have reads : readDelete ("DELETE FROM " ++ name).toList = some (.delete name) := by
    rw [readDelete, String.toList_append, strip_append, ← List.append_nil name.toList]
    simp only [Option.bind_eq_bind, Option.bind_some, readName_append named Breaks.nil]
    rfl
  rw [prepare, readDrop_of_differ (by decide), reads, Option.none_or, Option.some_or]

/-- A copying statement is read up to its list of columns. -/
theorem readCopy_copyText (namedTarget : plain target = true) (namedSource : plain source = true)
    (named : ∀ column ∈ columns, plain column = true) (rest : String) :
    readCopy (copyText target columns source ++ rest).toList =
      (readNames (join "," columns)).map fun names => .copy target names source := by
  have free : ')' ∉ (join "," columns).toList :=
    notMem_join (by decide) fun column member => notMem_of_plain (named column member) (by decide)
  have opens : ∀ text : List Char, " (".toList ++ text = ' ' :: '(' :: text := fun _ => rfl
  have closes : ∀ text : List Char, ") SELECT ".toList ++ text =
      ')' :: (" SELECT ".toList ++ text) := fun _ => rfl
  have stops : ∀ text : List Char, ";".toList ++ text = ';' :: text := fun _ => rfl
  unfold copyText
  simp only [String.toList_append, List.append_assoc]
  rw [readCopy, strip_append]
  simp only [Option.bind_eq_bind, Option.bind_some]
  rw [readName_append namedTarget (by rw [opens]; exact Breaks.cons (by decide) _)]
  simp only [Option.bind_some, strip_append]
  rw [closes, readUpTo_append free]
  simp only [Option.bind_some, strip_append]
  rw [readName_append namedSource (by rw [stops]; exact Breaks.cons (by decide) _), stops]
  simp only [Option.bind_some]
  cases readNames (join "," columns) <;> rfl

theorem prepare_copyText (rest : String) (reads : Option (Stmt Int))
    (copies : readCopy (copyText target columns source ++ rest).toList = reads) :
    prepare (copyText target columns source ++ rest) = reads := by
  have whole : copyText target columns source ++ rest = "INSERT INTO " ++ (target ++ " (" ++
      join "," columns ++ ") SELECT " ++ join "," columns ++ " FROM " ++ source ++ ";" ++ rest) := by
    unfold copyText
    simp only [String.append_assoc]
  rw [prepare, copies, whole, readDrop_of_differ (by decide), readDelete_of_differ (by decide),
    readCreate_of_differ (by decide), Option.none_or, Option.none_or, Option.or_none]

end Statements

/-! ## Column definitions -/

/-- A definition is its words, with blanks between them. -/
def wordsOf (column : ColumnDef) : List String :=
  column.name :: column.type :: ((if column.default0 then ["DEFAULT", "0"] else []) ++
    if column.primaryKey then ["PRIMARY", "KEY"] else [])

theorem text_eq_join (column : ColumnDef) : column.text = join " " (wordsOf column) := by
  rcases column with ⟨name, type, default0, primaryKey⟩
  apply String.toList_inj.mp
  have nothing : "".toList = [] := rfl
  unfold ColumnDef.text wordsOf join
  cases default0 <;> cases primaryKey <;>
    simp only [String.intercalate_cons_cons, String.intercalate_singleton, String.toList_append,
      List.append_assoc, if_true, if_false, Bool.false_eq_true, List.nil_append, List.append_nil,
      List.cons_append, nothing] <;>
    rfl

section Definitions

variable {column : ColumnDef} (namedColumn : plain column.name = true)
  (namedType : plain column.type = true)
include namedColumn namedType

/-- Only blanks and characters of names stand in a definition. -/
theorem notMem_words {c : Char} (ordinary : isWordChar c = false) :
    ∀ word ∈ wordsOf column, c ∉ word.toList := by
  have literal : ∀ word : String, word.toList.all isWordChar = true → c ∉ word.toList := by
    intro word chars member
    have char := List.all_eq_true.mp chars c member
    rw [ordinary] at char
    cases char
  intro word member
  rw [wordsOf, List.mem_cons, List.mem_cons, List.mem_append] at member
  rcases member with same | same | inside | inside
  · rw [same]
    exact notMem_of_plain namedColumn ordinary
  · rw [same]
    exact notMem_of_plain namedType ordinary
  · split at inside
    · rcases List.mem_cons.mp inside with same | same
      · rw [same]
        exact literal _ (by decide)
      · rw [List.mem_singleton.mp same]
        exact literal _ (by decide)
    · cases inside
  · split at inside
    · rcases List.mem_cons.mp inside with same | same
      · rw [same]
        exact literal _ (by decide)
      · rw [List.mem_singleton.mp same]
        exact literal _ (by decide)
    · cases inside

theorem notMem_text {c : Char} (ordinary : isWordChar c = false) (apart : c ≠ ' ') :
    c ∉ column.text.toList := by
  rw [text_eq_join]
  apply notMem_join
  · intro member
    exact apart (List.mem_singleton.mp member)
  · exact notMem_words namedColumn namedType ordinary

theorem readColumn_text : readColumn column.text = some column := by
  have undone : split ' ' column.text = wordsOf column := by
    rw [text_eq_join]
    exact split_join (List.cons_ne_nil _ _) (notMem_words namedColumn namedType (by decide))
  rw [readColumn, undone, wordsOf]
  rcases column with ⟨name, type, default0, primaryKey⟩
  dsimp only
  rw [namedColumn, namedType]
  cases default0 <;> cases primaryKey <;> rfl

end Definitions

theorem mapM_readColumn {columns : List ColumnDef}
    (named : ∀ column ∈ columns, plain column.name = true ∧ plain column.type = true) :
    (columns.map ColumnDef.text).mapM readColumn = some columns := by
  induction columns with
  | nil => rfl
  | cons column rest ih =>
      have here := named column List.mem_cons_self
      rw [List.map_cons, List.mapM_cons, readColumn_text here.1 here.2,
        ih fun other member => named other (List.mem_cons_of_mem _ member)]
      rfl

/-- The text that creates a table is read as it is meant. -/
theorem prepare_createText {name : String} {columns : List ColumnDef}
    (namedTable : plain name = true) (nonempty : columns ≠ [])
    (named : ∀ column ∈ columns, plain column.name = true ∧ plain column.type = true)
    (stands : together columns = true) :
    prepare (createText name columns) = some (.create name true (schemaOf columns)) := by
  have texts : columns.map ColumnDef.text ≠ [] := fun empty =>
    nonempty (List.map_eq_nil_iff.mp empty)
  have free : ∀ c, isWordChar c = false → c ≠ ' ' →
      ∀ text ∈ columns.map ColumnDef.text, c ∉ text.toList := by
    intro c ordinary apart text member
    rcases List.mem_map.mp member with ⟨column, inside, same⟩
    rw [← same]
    exact notMem_text (named column inside).1 (named column inside).2 ordinary apart
  have freeBody : ')' ∉ (join "," (columns.map ColumnDef.text)).toList :=
    notMem_join (by decide) (free ')' (by decide) (by decide))
  have undone : split ',' (join "," (columns.map ColumnDef.text)) = columns.map ColumnDef.text :=
    split_join texts (free ',' (by decide) (by decide))
  have opens : ∀ text : List Char, " (".toList ++ text = ' ' :: '(' :: text := fun _ => rfl
  have opened : ∀ text : List Char, (" (".toList ++ text).dropWhile (fun c => c == ' ') =
      "(".toList ++ text := fun _ => rfl
  have closes : ");".toList = [')', ';'] := rfl
  have reads : readCreate (createText name columns).toList =
      some (.create name true (schemaOf columns)) := by
    unfold createText
    simp only [String.toList_append, List.append_assoc]
    rw [readCreate, strip_append]
    simp only [Option.bind_eq_bind, Option.bind_some]
    rw [readName_append namedTable (by rw [opens]; exact Breaks.cons (by decide) _)]
    simp only [Option.bind_some, opened, strip_append]
    rw [closes, readUpTo_append freeBody]
    simp only [Option.bind_some, undone, mapM_readColumn named, stands]
    rfl
  have whole : createText name columns = "CREATE TABLE IF NOT EXISTS " ++
      (name ++ " (" ++ join "," (columns.map ColumnDef.text) ++ ");") := by
    unfold createText
    simp only [String.append_assoc]
  rw [prepare, reads, whole, readDrop_of_differ (by decide), readDelete_of_differ (by decide),
    readCopy_of_differ (by decide), Option.none_or, Option.none_or, Option.none_or]

/-! ## Queries -/

section Queries

variable {name : String}

theorem readTableInfo_of_differ {other : String}
    (differs : differ "PRAGMA table_info(".toList other.toList = true) (text : String) :
    readTableInfo (other ++ text).toList = none := by
  rw [readTableInfo, String.toList_append, strip_of_differ differs]
  rfl

theorem readSelectAll_of_differ {other : String}
    (differs : differ "SELECT * FROM ".toList other.toList = true) (text : String) :
    readSelectAll (other ++ text).toList = none := by
  rw [readSelectAll, String.toList_append, strip_of_differ differs]
  rfl

/-- A text with another beginning is not the query for all tables. -/
theorem ne_allTables {other : String} (differs : differ
    "select name from sqlite_master where type='table' order by name".toList other.toList = true)
    (text : String) :
    other ++ text ≠ "select name from sqlite_master where type='table' order by name" := by
  intro same
  have stripped := strip_of_differ differs text.toList
  rw [← String.toList_append, same] at stripped
  have whole := strip_append
    "select name from sqlite_master where type='table' order by name".toList []
  rw [List.append_nil, stripped] at whole
  cases whole

theorem prepareQuery_countTables (free : '\x27' ∉ name.toList) :
    prepareQuery ("SELECT COUNT(*) FROM sqlite_master WHERE type='table' AND name='" ++ name ++
      "'") = some (.countTables name) := by
  have closes : "'".toList = ['\x27'] := rfl
  have reads : readCountTables ("SELECT COUNT(*) FROM sqlite_master WHERE type='table' AND name='" ++
      name ++ "'").toList = some (.countTables name) := by
    rw [readCountTables, String.toList_append, String.toList_append, List.append_assoc,
      strip_append, closes]
    simp only [Option.bind_eq_bind, Option.bind_some,
      readUpTo_append free]
    rfl
  have whole : "SELECT COUNT(*) FROM sqlite_master WHERE type='table' AND name='" ++ name ++ "'" =
      "SELECT COUNT(*) FROM sqlite_master WHERE type='table' AND name='" ++ (name ++ "'") :=
    String.append_assoc
  rw [prepareQuery, reads, whole, if_neg (ne_allTables (by decide) _),
    readTableInfo_of_differ (by decide), readSelectAll_of_differ (by decide), Option.none_or,
    Option.none_or]

variable (named : plain name = true)
include named

theorem prepareQuery_tableInfo :
    prepareQuery ("PRAGMA table_info(" ++ name ++ ")") = some (.tableInfo name) := by
  have closes : ")".toList = [')'] := rfl
  have breaks : Breaks [')'] := Breaks.cons (by decide) []
  have reads : readTableInfo ("PRAGMA table_info(" ++ name ++ ")").toList =
      some (.tableInfo name) := by
    rw [readTableInfo, String.toList_append, String.toList_append, List.append_assoc,
      strip_append, closes]
    simp only [Option.bind_eq_bind, Option.bind_some, readName_append named breaks]
    rfl
  have whole : "PRAGMA table_info(" ++ name ++ ")" = "PRAGMA table_info(" ++ (name ++ ")") :=
    String.append_assoc
  rw [prepareQuery, reads, whole, if_neg (ne_allTables (by decide) _), Option.some_or]

theorem prepareQuery_selectAll :
    prepareQuery ("SELECT * FROM " ++ name ++ " limit 1") = some (.selectAll name) := by
  have blank : " limit 1".toList = ' ' :: "limit 1".toList := rfl
  have breaks : Breaks (' ' :: "limit 1".toList) := Breaks.cons (by decide) _
  have reads : readSelectAll ("SELECT * FROM " ++ name ++ " limit 1").toList =
      some (.selectAll name) := by
    rw [readSelectAll, String.toList_append, String.toList_append, List.append_assoc, strip_append,
      blank]
    simp only [Option.bind_eq_bind, Option.bind_some, readName_append named breaks]
    rfl
  have whole : "SELECT * FROM " ++ name ++ " limit 1" = "SELECT * FROM " ++ (name ++ " limit 1") :=
    String.append_assoc
  rw [prepareQuery, reads, whole, if_neg (ne_allTables (by decide) _),
    readTableInfo_of_differ (by decide), Option.none_or, Option.some_or]

end Queries

/-! ## Reserved words -/

/-- No reserved word ends like the name of a backup. -/
theorem keyword_temp (name : String) : keyword (name ++ "_TEMP") = false := by
  have noneEnds : ∀ word ∈ keywords, ¬ "_temp".toList <:+ word.toList := by decide
  apply Bool.eq_false_iff.mpr
  intro reserved
  have member : fold (name ++ "_TEMP") ∈ keywords := List.contains_iff_mem.mp reserved
  apply noneEnds _ member
  rw [fold_append, String.toList_append]
  exact List.suffix_append _ _

/-- A text that Java takes for an ASCII word folds to it, if there is no `i`, `k`
or `s` in the word. -/
theorem fold_of_sameIgnoringCase {name ascii : String}
    (plainLetters : (ascii.toList.all fun c => !List.contains ['i', 's', 'k'] c.toLower) = true)
    (ordinary : ascii.toList.all isWordChar = true) (same : sameIgnoringCase name ascii = true) :
    fold name = fold ascii := by
  apply String.toList_inj.mp
  rw [toList_fold, toList_fold]
  rw [sameIgnoringCase, beq_iff_eq, map_foldJava ordinary] at same
  rw [← same]
  apply List.map_congr_left
  intro c member
  have letter : foldJava c ∈ ascii.toList.map Char.toLower := by
    rw [← same]
    exact List.mem_map_of_mem member
  rcases List.mem_map.mp letter with ⟨d, inside, lower⟩
  have others : ['i', 's', 'k'].contains (foldJava c) = false := by
    rw [← lower, ← Bool.not_eq_true']
    exact List.all_eq_true.mp plainLetters d inside
  unfold foldJava at others ⊢
  split
  · rename_i special
    rw [if_pos special] at others
    cases others
  · rename_i notDotted
    rw [if_neg notDotted] at others
    split
    · rename_i special
      rw [if_pos special] at others
      cases others
    · rename_i notLong
      rw [if_neg notLong] at others
      split
      · rename_i special
        rw [if_pos special] at others
        cases others
      · rfl

theorem keyword_of_sameIgnoringCase {name ascii : String}
    (plainLetters : (ascii.toList.all fun c => !List.contains ['i', 's', 'k'] c.toLower) = true)
    (ordinary : ascii.toList.all isWordChar = true) (reserved : keyword ascii = true)
    (same : sameIgnoringCase name ascii = true) : keyword name = true := by
  rw [keyword, fold_of_sameIgnoringCase plainLetters ordinary same]
  exact reserved

/-! ## What tables admit -/

theorem schemaOf_eq {columns : List ColumnDef} (nonempty : columns ≠ [])
    (distinct : (columns.map fun column => fold column.name).Nodup) :
    (schemaOf columns).names = columns.map ColumnDef.name ∧
      (schemaOf columns).accept = accept (columns.map columnOf) ∧
      (schemaOf columns).autoincrement = false ∧
      (schemaOf columns).numbered = numberedKeys (columns.map columnOf) := by
  unfold schemaOf
  rw [dif_pos ⟨nonempty, distinct⟩]
  refine ⟨?_, rfl, rfl, rfl⟩
  rw [Schema.names, List.map_map]
  rfl

/-- The next number is a new one. -/
theorem ne_nextNumber (key : String) {present : List (Row Int)} {row : Row Int}
    (member : row ∈ present) : row key ≠ some (nextNumber key present) := by
  intro same
  have among : nextNumber key present ∈ present.filterMap fun row => row key :=
    List.mem_filterMap.mpr ⟨row, member, same⟩
  have bounded : ∀ (numbers : List Int) (number : Int), number ∈ numbers →
      number ≤ numbers.foldr max 0 := by
    intro numbers number inside
    induction numbers with
    | nil => cases inside
    | cons first rest ih =>
        rw [List.foldr_cons]
        rcases List.mem_cons.mp inside with here | later
        · rw [here]
          exact Int.le_max_left _ _
        · exact Int.le_trans (ih later) (Int.le_max_right _ _)
  have below := bounded _ _ among
  rw [nextNumber] at below
  omega

/-- A row whose key is free is admitted. -/
theorem accept_isSome {columns : List Column} {present : List (Row Int)} {given : List String}
    {values : Row Int}
    (free : ∀ key ∈ primaryKey columns, key ∈ given → ∀ row ∈ present,
      values key = none ∨ row key ≠ values key) :
    (accept columns present given values).isSome = true := by
  unfold accept
  dsimp only
  rw [if_neg]
  · rfl
  · intro taken
    rcases List.any_eq_true.mp taken with ⟨key, member, both⟩
    rw [Bool.and_eq_true, List.any_eq_true] at both
    rcases both with ⟨whole, row, inside, same⟩
    unfold complete at whole same
    by_cases replaced : key ∈ numberedKeys columns ∧ (key ∈ given → values key = none)
    · rw [if_pos replaced] at same
      exact ne_nextNumber key inside (beq_iff_eq.mp same)
    · rw [if_neg replaced] at whole same
      by_cases among : key ∈ given
      · rw [if_pos among] at whole same
        rcases free key member among row inside with null | different
        · rw [null] at whole
          cases whole
        · exact different (beq_iff_eq.mp same)
      · rw [if_neg among, if_pos member] at whole
        cases whole

theorem mem_numberedKeys {columns : List ColumnDef} {key : String} :
    key ∈ numberedKeys (columns.map columnOf) ↔
      ∃ column ∈ columns, column.numbered = true ∧ fold column.name = key := by
  have marked : ∀ column : ColumnDef, (decide (0 < (columnOf column).pk) &&
      fold (columnOf column).type == "integer") = column.numbered := by
    intro column
    unfold columnOf ColumnDef.numbered
    cases column.primaryKey <;> rfl
  rw [numberedKeys, List.filter_map, List.map_map, List.mem_map]
  simp only [List.mem_filter, Function.comp_apply, marked, and_assoc]
  rfl

theorem mem_primaryKey {columns : List ColumnDef} {key : String}
    (member : key ∈ primaryKey (columns.map columnOf)) :
    ∃ column ∈ columns, column.primaryKey = true ∧ fold column.name = key := by
  rcases List.mem_map.mp member with ⟨column, inside, same⟩
  rcases List.mem_filter.mp inside with ⟨among, keyed⟩
  rcases List.mem_map.mp among with ⟨definition, defined, made⟩
  refine ⟨definition, defined, ?_, ?_⟩
  · rw [← made] at keyed
    unfold columnOf at keyed
    cases marked : definition.primaryKey with
    | true => rfl
    | false =>
        rw [marked] at keyed
        cases keyed
  · rw [← same, ← made]
    rfl

/-! ## The laws -/

theorem plain_of {fails : Nat → String → Bool} {name : String}
    (named : (reference fails).Plain name) : plain name = true := by
  have ordinary : keyword name = false := named.2
  rw [plain, named.1, ordinary]
  rfl

theorem prepare_copyText_append {target source : String} {columns : List String}
    (namedTarget : plain target = true) (namedSource : plain source = true)
    (nonempty : columns ≠ []) (named : ∀ column ∈ columns, plain column = true) (rest : String) :
    prepare (copyText target columns source ++ rest) = some (.copy target columns source) := by
  apply prepare_copyText
  rw [readCopy_copyText namedTarget namedSource named, readNames_join nonempty named]
  rfl

theorem prepare_copyText_nil {target source : String} (namedTarget : plain target = true)
    (namedSource : plain source = true) (rest : String) :
    prepare (copyText target [] source ++ rest) = none := by
  have named : ∀ column ∈ ([] : List String), plain column = true :=
    fun column member => absurd member List.not_mem_nil
  have unread : readNames (join "," []) = none := by decide
  apply prepare_copyText
  rw [readCopy_copyText namedTarget namedSource named, unread]
  rfl

theorem prepareQuery_allTables :
    prepareQuery "select name from sqlite_master where type='table' order by name" =
      some .allTables := by
  rw [prepareQuery, if_pos rfl]

theorem reference_prepare (fails : Nat → String → Bool) :
    (reference fails).prepare = prepare := rfl

theorem reference_prepareQuery (fails : Nat → String → Bool) :
    (reference fails).prepareQuery = prepareQuery := rfl

theorem reference_schema (fails : Nat → String → Bool) :
    (reference fails).schema = schemaOf := rfl

theorem documented (fails : Nat → String → Bool) : (reference fails).Documented where
  keyword_temp := keyword_temp
  keyword_from := fun _ => keyword_of_sameIgnoringCase (by decide) (by decide) (by decide)
  keyword_to := fun _ => keyword_of_sameIgnoringCase (by decide) (by decide) (by decide)
  drop := by
    intro name named
    rw [reference_prepare]
    exact prepare_drop (plain_of named)
  delete := by
    intro name named
    rw [reference_prepare]
    exact prepare_delete (plain_of named)
  copy := by
    intro target columns source rest namedTarget namedSource nonempty named
    rw [reference_prepare]
    exact prepare_copyText_append (plain_of namedTarget) (plain_of namedSource) nonempty
      (fun column member => plain_of (named column member)) rest
  copy_nil := by
    intro target source rest namedTarget namedSource
    rw [reference_prepare]
    exact prepare_copyText_nil (plain_of namedTarget) (plain_of namedSource) rest
  create := by
    intro name columns named defines
    rw [reference_prepare, reference_schema]
    apply prepare_createText (plain_of named) defines.nonempty
    · exact fun column member => ⟨plain_of (defines.plain column member),
        defines.typed column member⟩
    · rw [together, Bool.and_eq_true, Bool.and_eq_true, Bool.not_eq_true', List.isEmpty_eq_false_iff,
        decide_eq_true_eq, decide_eq_true_eq]
      exact ⟨⟨defines.nonempty, defines.distinct⟩, defines.oneKey⟩
  schema_names := by
    intro columns defines
    rw [reference_schema]
    exact (schemaOf_eq defines.nonempty defines.distinct).1
  schema_autoincrement := by
    intro columns defines
    rw [reference_schema]
    exact (schemaOf_eq defines.nonempty defines.distinct).2.2.1
  schema_numbered := by
    intro columns defines key
    rw [reference_schema, (schemaOf_eq defines.nonempty defines.distinct).2.2.2]
    exact mem_numberedKeys
  schema_refuses := by
    intro columns _ present given values column _ _ _ value _ impossible
    cases impossible
  schema_accepts := by
    intro columns defines present given values free _
    rw [reference_schema, (schemaOf_eq defines.nonempty defines.distinct).2.1]
    apply accept_isSome
    intro key member among
    rcases mem_primaryKey member with ⟨column, inside, keyed, same⟩
    rw [← same] at among ⊢
    exact free column inside keyed among
  tableInfo := by
    intro name named
    rw [reference_prepareQuery]
    exact prepareQuery_tableInfo (plain_of named)
  selectAll := by
    intro name named
    rw [reference_prepareQuery]
    exact prepareQuery_selectAll (plain_of named)
  countTables := by
    intro name named
    rw [reference_prepareQuery]
    exact prepareQuery_countTables (notMem_of_plain (plain_of named) (by decide))
  allTables := by
    rw [reference_prepareQuery]
    exact prepareQuery_allTables

/-- The columns with `PRIMARY KEY` behind them are the primary key. -/
theorem schemaOf_key {columns : List ColumnDef} (nonempty : columns ≠ [])
    (distinct : (columns.map fun column => fold column.name).Nodup) :
    primaryKey (schemaOf columns).columns =
      (columns.filter ColumnDef.primaryKey).map fun column => fold column.name := by
  have key : ∀ column ∈ columns, decide (0 < (columnOf column).pk) = column.primaryKey := by
    intro column _
    unfold columnOf
    cases column.primaryKey <;> rfl
  have own : (schemaOf columns).columns = columns.map columnOf := by
    unfold schemaOf
    rw [dif_pos ⟨nonempty, distinct⟩]
  rw [own, primaryKey, List.filter_map, List.map_map]
  apply congrArg
  exact List.filter_congr key

theorem keyed (fails : Nat → String → Bool) : (reference fails).Keyed where
  schema_key := by
    intro columns defines
    rw [reference_schema]
    exact schemaOf_key defines.nonempty defines.distinct

/-- What begins like a `CREATE` of a table creates this table. -/
theorem create_of_prepare {name rest : String} {stmt : Stmt Int} (named : plain name = true)
    (reads : prepare ("CREATE TABLE IF NOT EXISTS " ++ name ++ " (" ++ rest) = some stmt) :
    ∃ schema, stmt = .create name true schema := by
  have opens : ∀ text : List Char, " (".toList ++ text = ' ' :: '(' :: text := fun _ => rfl
  have whole : "CREATE TABLE IF NOT EXISTS " ++ name ++ " (" ++ rest =
      "CREATE TABLE IF NOT EXISTS " ++ (name ++ " (" ++ rest) := by
    simp only [String.append_assoc]
  rw [prepare, whole, readDrop_of_differ (by decide), readDelete_of_differ (by decide),
    readCopy_of_differ (by decide), Option.none_or, Option.none_or, Option.none_or, readCreate]
    at reads
  simp only [String.toList_append, List.append_assoc, strip_append, Option.bind_eq_bind,
    Option.bind_some] at reads
  rw [readName_append named (by rw [opens]; exact Breaks.cons (by decide) _)] at reads
  simp only [Option.bind_some] at reads
  rcases Option.bind_eq_some_iff.mp reads with ⟨_, -, reads⟩
  rcases Option.bind_eq_some_iff.mp reads with ⟨_, -, reads⟩
  rcases Option.bind_eq_some_iff.mp reads with ⟨columns, -, reads⟩
  split at reads
  · cases reads
    exact ⟨_, rfl⟩
  · cases reads

/-- What begins like an `INSERT` into a table copies into this table. -/
theorem copy_of_prepare {name rest : String} {stmt : Stmt Int} (named : plain name = true)
    (reads : prepare ("INSERT INTO " ++ name ++ " (" ++ rest) = some stmt) :
    ∃ columns source, stmt = .copy name columns source := by
  have opens : ∀ text : List Char, " (".toList ++ text = ' ' :: '(' :: text := fun _ => rfl
  have whole : "INSERT INTO " ++ name ++ " (" ++ rest =
      "INSERT INTO " ++ (name ++ " (" ++ rest) := by
    simp only [String.append_assoc]
  rw [prepare, whole, readDrop_of_differ (by decide), readDelete_of_differ (by decide),
    readCreate_of_differ (by decide), Option.none_or, Option.none_or, Option.or_none, readCopy]
    at reads
  simp only [String.toList_append, List.append_assoc, strip_append, Option.bind_eq_bind,
    Option.bind_some] at reads
  rw [readName_append named (by rw [opens]; exact Breaks.cons (by decide) _)] at reads
  simp only [Option.bind_some, strip_append] at reads
  rcases Option.bind_eq_some_iff.mp reads with ⟨_, -, reads⟩
  rcases Option.bind_eq_some_iff.mp reads with ⟨_, -, reads⟩
  rcases Option.bind_eq_some_iff.mp reads with ⟨_, -, reads⟩
  rcases Option.bind_eq_some_iff.mp reads with ⟨_, -, reads⟩
  rcases Option.bind_eq_some_iff.mp reads with ⟨_, -, reads⟩
  rcases Option.bind_eq_some_iff.mp reads with ⟨_, -, reads⟩
  split at reads
  · cases reads
    exact ⟨_, _, rfl⟩
  · cases reads

/-- What deletes from a word deletes from a plain name. -/
theorem plain_of_prepare_delete {name : String} {stmt : Stmt Int}
    (chars : name.toList.all isWordChar = true)
    (reads : prepare ("DELETE FROM " ++ name) = some stmt) : plain name = true := by
  have taken : name.toList.takeWhile isWordChar = name.toList :=
    List.takeWhile_eq_self_iff.mpr (List.all_eq_true.mp chars)
  rw [prepare, readDrop_of_differ (by decide), readCopy_of_differ (by decide),
    readCreate_of_differ (by decide), Option.none_or, Option.none_or, Option.or_none, readDelete,
    String.toList_append, strip_append] at reads
  simp only [Option.bind_eq_bind, Option.bind_some, readName, taken, String.ofList_toList] at reads
  by_contra other
  rw [if_neg other, Option.bind_none] at reads
  cases reads

theorem prefixed (fails : Nat → String → Bool) : (reference fails).Prefixed where
  create := by
    intro name rest stmt named reads
    rw [reference_prepare] at reads
    exact create_of_prepare (plain_of named) reads
  insert := by
    intro name rest stmt named reads
    rw [reference_prepare] at reads
    rcases copy_of_prepare (plain_of named) reads with ⟨columns, source, same⟩
    rw [same]
    exact Stmt.onRows_copy name columns source
  delete := by
    intro name stmt chars reads
    rw [reference_prepare] at reads
    have named := plain_of_prepare_delete chars reads
    rw [plain, Bool.and_eq_true, Bool.not_eq_true'] at named
    exact named

theorem literal (fails : Nat → String → Bool) : (reference fails).Literal where
  countTables := by
    intro text free
    rw [reference_prepareQuery]
    exact prepareQuery_countTables free

/-! ## Small databases -/

/-- The one column of the small tables. -/
def valueColumn : ColumnDef := ⟨"X", "TEXT", false, false⟩

def valueSchema : Schema Int := schemaOf [valueColumn]

/-- The text that creates a small table. -/
def valueText (name : String) : String := createText name [valueColumn]

/-- A row of a small table. -/
def valueRow (value : Int) : Row Int := fun key => if key = "x" then some value else none

/-- A table with one column and these values. -/
def valueTable (name : String) (values : List Int) : Table Int where
  name := name
  schema := valueSchema
  rows := values.map valueRow
  apart := by
    apply List.pairwise_of_forall
    intro first second keyed
    exact absurd rfl keyed

/-- A database of such tables. -/
def valueTables : List (String × List Int) → Database Int
  | [] => Database.empty
  | (name, values) :: rest => (valueTables rest).put (valueTable name values)

theorem valueTables_cons_find (name : String) (values : List Int)
    (rest : List (String × List Int)) (other : String) :
    (valueTables ((name, values) :: rest)).find other =
      if fold other = fold name then some (valueTable name values)
      else (valueTables rest).find other :=
  Database.lookup_put _ _ _

theorem valueTables_find {tables : List (String × List Int)} {name : String} {table : Table Int}
    (found : (valueTables tables).find name = some table) :
    ∃ values, table = valueTable table.name values := by
  induction tables with
  | nil =>
      rw [valueTables, Database.find, Database.lookup_empty] at found
      cases found
  | cons entry rest ih =>
      rw [valueTables_cons_find] at found
      split at found
      · cases found
        exact ⟨entry.2, rfl⟩
      · exact ih found

/-- The engine on which statements with these texts throw. -/
def failing (texts : List String) : Engine Int := reference fun _ sql => texts.contains sql

theorem documented_failing (texts : List String) : (failing texts).Documented := documented _

theorem steady_failing (texts : List String) : (failing texts).Steady := fun _ _ => rfl

theorem plain_failing {name : String} (named : plain name = true) (texts : List String) :
    (failing texts).Plain name := by
  rw [plain, Bool.and_eq_true, Bool.not_eq_true'] at named
  exact named

theorem defines_value (texts : List String) : (failing texts).Defines [valueColumn] where
  nonempty := List.cons_ne_nil _ _
  plain := fun column member => by
    rw [List.mem_singleton.mp member]
    exact plain_failing (by decide) texts
  typed := fun column member => by
    rw [List.mem_singleton.mp member]
    exact (by decide : plain "TEXT" = true)
  distinct := List.nodup_singleton _
  oneKey := by decide
  undefaulted := by decide

end Reference

end Sql
end ModuleDatabase
