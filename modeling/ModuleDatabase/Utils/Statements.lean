import ModuleDatabase.Base.Grammar
import ModuleDatabase.Base.Text
import ModuleDatabase.Utils.ModuleDBSqlUtils

namespace ModuleDatabase
namespace ModuleDBSqlUtils

open Text

/-!
# Statements with placeholders

An `INSERT`, an `UPDATE` and a condition are phrases of a grammar, whose names
are stretches of characters that do not structure a statement.  What a function
builds is compared with what the grammar writes.

An `UPDATE` is written as the grammar writes it, so it can be read, and its
placeholders belong to the columns in their order.  An `INSERT` has a
placeholder too many, and there is no `INSERT` of that form.  A `DELETE` stops
behind the word `WHERE`.
-/

/-! ## The grammar -/

/-- A character that does not structure a statement. -/
def isNameChar (c : Char) : Bool := !" ,.=?()".toList.contains c

/-- A name that can be told from what stands around it. -/
structure PlainName (name : String) : Prop where
  named : name ≠ ""
  chars : ∀ c ∈ name.toList, isNameChar c = true

theorem plainName_of_check {name : String}
    (checked : (!name.isEmpty && name.toList.all isNameChar) = true) : PlainName name := by
  rw [Bool.and_eq_true, List.all_eq_true] at checked
  refine ⟨?_, checked.2⟩
  rintro rfl
  exact absurd checked.1 (by decide)

/-- A name. -/
def name : Phrase Char String := (Phrase.word isNameChar).via String.ofList String.toList

/-- `c=?`. -/
def assigned : Phrase Char String := name.before "=?".toList

/-- `c=?,...,c=?`. -/
def assignments : Phrase Char (List String) := Phrase.separated ",".toList assigned

/-- ` WHERE t.w=? AND ... AND t.w=?`, or nothing. -/
def condition (table : String) : Phrase Char (List String) :=
  Phrase.clause " WHERE ".toList
    (Phrase.separated " AND ".toList (assigned.after (table ++ ".").toList))

structure Update where
  table : String
  updateColumns : List String
  whereColumns : List String
  deriving DecidableEq, Repr

/-- A statement that names a table and a column to set, and whose names are plain. -/
structure Update.Plain (statement : Update) : Prop where
  table : PlainName statement.table
  sets : statement.updateColumns ≠ []
  updateColumns : ∀ column ∈ statement.updateColumns, PlainName column
  whereColumns : ∀ column ∈ statement.whereColumns, PlainName column

/-- `UPDATE t SET c=?,...,c=? [WHERE t.w=? AND ... AND t.w=?]`. -/
def update : Phrase Char Update :=
  ((name.after "UPDATE ".toList).andThen fun table =>
    (assignments.after " SET ".toList).andThen fun _ => condition table).via
      (fun parts => ⟨parts.1, parts.2.1, parts.2.2⟩)
      (fun statement => (statement.table, statement.updateColumns, statement.whereColumns))

structure Insert where
  table : String
  columns : List String
  /-- The number of placeholders. -/
  placeholders : Nat
  deriving DecidableEq, Repr

/-- A statement that names a table and columns, and whose names are plain. -/
structure Insert.Plain (statement : Insert) : Prop where
  table : PlainName statement.table
  named : statement.columns ≠ []
  columns : ∀ column ∈ statement.columns, PlainName column
  held : statement.placeholders ≠ 0

/-- `(c,...,c)`. -/
def columnList : Phrase Char (List String) :=
  ((Phrase.separated ",".toList name).before ")".toList).after "(".toList

/-- `(?,...,?)`. -/
def placeholderList : Phrase Char (List Unit) :=
  ((Phrase.separated ",".toList (Phrase.nothing.after "?".toList)).before ")".toList).after
    "(".toList

/-- `INSERT INTO t (c,...,c) VALUES (?,...,?)`. -/
def insert : Phrase Char Insert :=
  ((name.after "INSERT INTO ".toList).andThen fun _ =>
    (columnList.after " ".toList).andThen fun _ => placeholderList.after " VALUES ".toList).via
      (fun parts => ⟨parts.1, parts.2.1, parts.2.2.length⟩)
      (fun statement =>
        (statement.table, statement.columns, List.replicate statement.placeholders ()))

/-! ## What can be read -/

theorem PlainName.ends {c : Char} (structures : isNameChar c = false) (rest : List Char) :
    Phrase.Ends isNameChar (c :: rest) := Phrase.Ends.cons structures rest

theorem sound_name : name.Sound := (Phrase.sound_word isNameChar).via fun _ => String.toList_ofList

theorem complete_name : name.Complete PlainName (Phrase.Ends isNameChar) := by
  apply ((Phrase.complete_word isNameChar).via fun _ => String.ofList_toList).mono
  · intro value plain
    exact ⟨fun empty => plain.named (String.toList_eq_nil_iff.mp empty), plain.chars⟩
  · exact fun rest ends => ends

theorem complete_assigned : assigned.Complete PlainName fun _ => True :=
  complete_name.before fun rest => PlainName.ends (by decide) _

/-- Every statement of plain names is read as it is written. -/
theorem complete_update : update.Complete Update.Plain (· = []) := by
  have sets : (assignments.after " SET ".toList).Complete
      (fun columns => columns ≠ [] ∧ ∀ column ∈ columns, PlainName column)
      fun rest => True ∧ ¬ ",".toList <+: rest :=
    (complete_assigned.separated (by decide) fun _ => trivial).after _
  have conditions : ∀ table, (condition table).Complete
      (fun columns => columns ≠ [] → columns ≠ [] ∧ ∀ column ∈ columns, PlainName column)
      (· = []) := by
    intro table
    apply (((complete_assigned.after _).separated (by decide) fun _ => trivial).clause _).mono
    · exact fun columns plain => plain
    · rintro rest rfl
      simp
  have both : ∀ table, ((assignments.after " SET ".toList).andThen fun _ =>
      condition table).Complete
        (fun parts => (parts.1 ≠ [] ∧ ∀ column ∈ parts.1, PlainName column) ∧
          (parts.2 ≠ [] → parts.2 ≠ [] ∧ ∀ column ∈ parts.2, PlainName column)) (· = []) := by
    intro table
    apply sets.andThen fun _ _ => conditions table
    rintro columns others rest - - rfl
    refine ⟨trivial, ?_⟩
    rw [List.append_nil]
    exact Phrase.clause_apart (by decide) [] "WHERE ".toList _ others
  have parts := (complete_name.after "UPDATE ".toList).andThen (fun table _ => both table)
    (by
      rintro table parts rest - - rfl
      simp only [Phrase.andThen, Phrase.after, List.append_assoc]
      exact PlainName.ends (by decide) _)
  have statement : update.Complete _ (· = []) := parts.via fun _ => rfl
  apply statement.mono
  · intro value plain
    exact ⟨plain.table, ⟨plain.sets, plain.updateColumns⟩, fun filled => ⟨filled, plain.whereColumns⟩⟩
  · exact fun rest ends => ends

/-- Whatever number of placeholders is written is read again. -/
theorem complete_insert : insert.Complete Insert.Plain fun _ => True := by
  have names : columnList.Complete
      (fun columns => columns ≠ [] ∧ ∀ column ∈ columns, PlainName column) fun _ => True :=
    ((complete_name.separated (by decide) fun rest => PlainName.ends (by decide) _).before
      fun rest => ⟨PlainName.ends (by decide) _, by simp⟩).after _
  have holders : placeholderList.Complete
      (fun units => units ≠ [] ∧ ∀ held ∈ units, True) fun _ => True :=
    (((Phrase.complete_nothing.after _).separated (by decide) fun _ => trivial).before
      fun rest => ⟨trivial, by simp⟩).after _
  have lists := (names.after " ".toList).andThen
    (fun _ _ => holders.after " VALUES ".toList) fun _ _ _ _ _ _ => trivial
  have parts := (complete_name.after "INSERT INTO ".toList).andThen (fun _ _ => lists)
    (by
      rintro table parts rest - - -
      simp only [Phrase.andThen, Phrase.after, List.append_assoc]
      exact PlainName.ends (by decide) _)
  have statement : insert.Complete _ fun _ => True := parts.via fun _ => by simp
  apply statement.mono
  · intro value plain
    refine ⟨plain.table, ⟨plain.named, plain.columns⟩, ?_, fun _ _ => trivial⟩
    simpa [List.replicate_eq_nil_iff] using plain.held
  · exact fun rest ends => ends

/-! ## `UPDATE` -/

@[simp] theorem append_eq (builder : StringBuilder) (text : String) :
    StringBuilder.append builder text = builder ++ text.toList := rfl

/-- A separator is left out behind the last element. -/
theorem toList_separator (last : Prop) [Decidable last] (separator : String) :
    (if last then "" else separator).toList = if last then [] else separator.toList := by
  split
  · rfl
  · rfl

@[simp] theorem write_name (value : String) : name.write value = value.toList := rfl

@[simp] theorem write_assigned (column : String) :
    assigned.write column = column.toList ++ "=?".toList := rfl

theorem write_assignments (columns : List String) :
    assignments.write columns = ",".toList.intercalate (columns.map assigned.write) :=
  Phrase.separated_write _ _ columns

theorem write_condition {table : String} {columns : List String} (filled : columns ≠ []) :
    (condition table).write columns = " WHERE ".toList ++
      " AND ".toList.intercalate (columns.map (assigned.after (table ++ ".").toList).write) := by
  rw [← Phrase.separated_write]
  exact Phrase.clause_write _ _ filled

theorem write_update (statement : Update) :
    update.write statement = "UPDATE ".toList ++ statement.table.toList ++ " SET ".toList ++
      assignments.write statement.updateColumns ++
        (condition statement.table).write statement.whereColumns := by
  simp [update, Phrase.via, Phrase.andThen, Phrase.after]

/-- With a table and a column, a statement is built. -/
theorem arguments_given {table : String} (named : table ≠ "") {columns : List String}
    (filled : columns ≠ []) : ¬ (table.isEmpty || columns.isEmpty) = true := by
  simp [named, filled]

theorem buildColumnsEqValue_eq {table : String} (named : table ≠ "") {columns : List String}
    (filled : columns ≠ []) (builder : StringBuilder) :
    buildColumnsEqValue builder table columns = builder ++
      " AND ".toList.intercalate (columns.map (assigned.after (table ++ ".").toList).write) := by
  rw [buildColumnsEqValue, if_neg (arguments_given named filled)]
  apply forEachIndexed_separated
  intro index column builder
  simp only [append_eq, buildColumn, toList_separator, Phrase.after, write_assigned,
    String.toList_append, List.append_assoc]

/-- An `UPDATE` is built as the grammar writes it. -/
theorem buildUpdateSql_eq (statement : Update) (named : statement.table ≠ "")
    (sets : statement.updateColumns ≠ []) :
    buildUpdateSql statement.table statement.whereColumns statement.updateColumns =
      some (update.write statement) := by
  have updates : ∀ builder, (forEachIndexed statement.updateColumns builder
      fun index column builder =>
        StringBuilder.append (StringBuilder.append (StringBuilder.append builder column) "=?")
          (if index = statement.updateColumns.length - 1 then "" else ",")) =
      builder ++ assignments.write statement.updateColumns := by
    intro builder
    rw [write_assignments]
    apply forEachIndexed_separated
    intro index column builder
    simp only [append_eq, toList_separator, write_assigned, List.append_assoc]
  have conditions : ∀ builder, (if statement.whereColumns.isEmpty then builder
      else buildColumnsEqValue (StringBuilder.append builder " WHERE ") statement.table
        statement.whereColumns) =
      builder ++ (condition statement.table).write statement.whereColumns := by
    intro builder
    by_cases filled : statement.whereColumns = []
    · rw [filled]
      exact (List.append_nil builder).symm
    · have given : ¬ statement.whereColumns.isEmpty = true := by simpa using filled
      rw [if_neg given, buildColumnsEqValue_eq named filled, write_condition filled, append_eq,
        List.append_assoc]
  rw [buildUpdateSql, if_neg (arguments_given named sets)]
  simp only [updates, conditions]
  simp [write_update]

/-! ## Placeholders -/

/-- The name that each placeholder is compared with or assigned to: the last word before it.
The word so far comes first. -/
def owners : List Char → List Char → List String
  | _, [] => []
  | word, c :: rest =>
      if c = '?' then String.ofList word :: owners [] rest
      else if c = '=' then owners word rest
      else if isNameChar c then owners (word ++ [c]) rest
      else owners [] rest

theorem isNameChar_ne {c : Char} (plain : isNameChar c = true) : c ≠ '?' ∧ c ≠ '=' := by
  constructor
  · rintro rfl
    exact absurd plain (by decide)
  · rintro rfl
    exact absurd plain (by decide)

theorem owners_name (word : List Char) {letters : List Char}
    (plain : ∀ c ∈ letters, isNameChar c = true) (rest : List Char) :
    owners word (letters ++ rest) = owners (word ++ letters) rest := by
  induction letters generalizing word with
  | nil => simp
  | cons c more ih =>
      have letter := plain c List.mem_cons_self
      have other := isNameChar_ne letter
      have later := ih (word ++ [c]) fun d member => plain d (List.mem_cons_of_mem c member)
      simp [owners, letter, other.1, other.2, later]

/-- Nothing is owned up to a character that ends a word. -/
theorem owners_skip (word : List Char) {skipped : List Char} (unmarked : '?' ∉ skipped) {c : Char}
    (ends : isNameChar c = false) (apart : c ≠ '?' ∧ c ≠ '=') (rest : List Char) :
    owners word (skipped ++ c :: rest) = owners [] rest := by
  induction skipped generalizing word with
  | nil => simp [owners, ends, apart.1, apart.2]
  | cons d more ih =>
      have other : d ≠ '?' := fun same => unmarked (same ▸ List.mem_cons_self)
      have later : '?' ∉ more := fun member => unmarked (List.mem_cons_of_mem d member)
      rw [List.cons_append, owners, if_neg other]
      split
      · exact ih word later
      · split
        · exact ih (word ++ [d]) later
        · exact ih [] later

theorem owners_assigned {column : String} (plain : PlainName column) (rest : List Char) :
    owners [] (assigned.write column ++ rest) = column :: owners [] rest := by
  rw [write_assigned, List.append_assoc, owners_name [] plain.chars]
  simp [owners]

/-- The placeholders of a list of items belong to the items. -/
theorem owners_separated {separator : List Char} {item : Phrase Char String} {columns : List String}
    (skips : ∀ rest, owners [] (separator ++ rest) = owners [] rest)
    (owns : ∀ column ∈ columns, ∀ rest,
      owners [] (item.write column ++ rest) = column :: owners [] rest) (rest : List Char) :
    owners [] ((Phrase.separated separator item).write columns ++ rest) =
      columns ++ owners [] rest := by
  rw [Phrase.separated_write]
  induction columns with
  | nil => simp
  | cons column others ih =>
      have first := owns column List.mem_cons_self
      have later := ih fun other member => owns other (List.mem_cons_of_mem column member)
      cases others with
      | nil => simp [first]
      | cons other more =>
          simp only [List.map_cons, List.intercalate_cons_cons, List.append_assoc] at later ⊢
          rw [first, skips, later]
          rfl

theorem PlainName.no_placeholder {name : String} (plain : PlainName name) : '?' ∉ name.toList :=
  fun member => (isNameChar_ne (plain.chars '?' member)).1 rfl

theorem owners_assignments {columns : List String} (plain : ∀ column ∈ columns, PlainName column)
    (rest : List Char) :
    owners [] (assignments.write columns ++ rest) = columns ++ owners [] rest := by
  apply owners_separated
  · intro rest
    exact owners_skip [] List.not_mem_nil (by decide) (by decide) rest
  · intro column member rest
    exact owners_assigned (plain column member) rest

theorem owners_condition {table : String} (named : PlainName table) {columns : List String}
    (plain : ∀ column ∈ columns, PlainName column) :
    owners [] ((condition table).write columns) = columns := by
  by_cases filled : columns = []
  · rw [filled]
    rfl
  · have tableless : ∀ rest, owners [] ((table ++ ".").toList ++ rest) = owners [] rest := by
      intro rest
      rw [String.toList_append, List.append_assoc]
      exact owners_skip [] named.no_placeholder (by decide) (by decide) rest
    have joined : ∀ rest, owners [] (" AND ".toList ++ rest) = owners [] rest := by
      intro rest
      have unmarked : '?' ∉ " AND".toList := by decide
      exact owners_skip [] unmarked (by decide) (by decide) rest
    have opened : ∀ rest, owners [] (" WHERE ".toList ++ rest) = owners [] rest := by
      intro rest
      have unmarked : '?' ∉ " WHERE".toList := by decide
      exact owners_skip [] unmarked (by decide) (by decide) rest
    have each : ∀ column ∈ columns, ∀ rest,
        owners [] ((assigned.after (table ++ ".").toList).write column ++ rest) =
          column :: owners [] rest := by
      intro column member rest
      rw [Phrase.after, List.append_assoc, tableless, owners_assigned (plain column member)]
    have items := owners_separated joined each []
    rw [List.append_nil, Phrase.separated_write] at items
    rw [write_condition filled, opened, items]
    exact List.append_nil columns

theorem owners_update {statement : Update} (plain : statement.Plain) :
    owners [] (update.write statement) = statement.updateColumns ++ statement.whereColumns := by
  have opening : '?' ∉ "UPDATE ".toList ++ (statement.table.toList ++ " SET".toList) := by
    simp [plain.table.no_placeholder]
  calc
    owners [] (update.write statement)
        = owners [] (("UPDATE ".toList ++ (statement.table.toList ++ " SET".toList)) ++ ' ' ::
            (assignments.write statement.updateColumns ++
              (condition statement.table).write statement.whereColumns)) := by
      simp [write_update]
    _ = owners [] (assignments.write statement.updateColumns ++
          (condition statement.table).write statement.whereColumns) :=
      owners_skip [] opening (by decide) (by decide) _
    _ = statement.updateColumns ++ statement.whereColumns := by
      rw [owners_assignments plain.updateColumns, owners_condition plain.table plain.whereColumns]

/-- What is built is read back as what it was built from, no other statement is the same, and
the placeholders belong to the columns to set and then to those of the condition, in order. -/
theorem buildUpdateSql_reads (statement : Update) (plain : statement.Plain) :
    ∃ text, buildUpdateSql statement.table statement.whereColumns statement.updateColumns =
        some text ∧
      update.whole text = some statement ∧
      owners [] text = statement.updateColumns ++ statement.whereColumns ∧
      ∀ other : Update, other.Plain →
        buildUpdateSql other.table other.whereColumns other.updateColumns = some text →
        other = statement := by
  have reads : ∀ one : Update, one.Plain → update.whole (update.write one) = some one :=
    fun one isPlain => complete_update.whole_write isPlain rfl
  refine ⟨update.write statement, buildUpdateSql_eq statement plain.table.named plain.sets,
    reads statement plain, owners_update plain, ?_⟩
  intro other isPlain builds
  have same : update.write other = update.write statement :=
    Option.some.inj ((buildUpdateSql_eq other isPlain.table.named isPlain.sets).symm.trans builds)
  have there := reads other isPlain
  rw [same, reads statement plain] at there
  exact (Option.some.inj there).symm

theorem small_plain : Update.Plain ⟨"T", ["A", "B"], ["C"]⟩ where
  table := plainName_of_check (by decide)
  sets := by simp
  updateColumns := by
    intro column member
    rcases List.mem_pair.mp member with rfl | rfl
    · exact plainName_of_check (by decide)
    · exact plainName_of_check (by decide)
  whereColumns := by
    intro column member
    rw [List.mem_singleton.mp member]
    exact plainName_of_check (by decide)

/-- A statement with two columns to set and one in its condition. -/
theorem buildUpdateSql_reads_small : ∃ text, buildUpdateSql "T" ["C"] ["A", "B"] = some text ∧
      update.whole text = some ⟨"T", ["A", "B"], ["C"]⟩ ∧ owners [] text = ["A", "B", "C"] ∧
      ∀ other : Update, other.Plain →
        buildUpdateSql other.table other.whereColumns other.updateColumns = some text →
        other = ⟨"T", ["A", "B"], ["C"]⟩ :=
  buildUpdateSql_reads ⟨"T", ["A", "B"], ["C"]⟩ small_plain

/-! ## `INSERT` -/

theorem sound_insert : insert.Sound := by
  have names : columnList.Sound := ((sound_name.separated _).before _).after _
  have holders : placeholderList.Sound :=
    (((Phrase.sound_nothing.after _).separated _).before _).after _
  apply ((sound_name.after _).andThen fun _ => (names.after _).andThen fun _ =>
    holders.after _).via
  rintro ⟨table, columns, units⟩
  have same : List.replicate units.length () = units :=
    (List.eq_replicate_iff.mpr ⟨rfl, fun _ _ => rfl⟩).symm
  simp [same]

theorem write_insert (statement : Insert) :
    insert.write statement = "INSERT INTO ".toList ++ statement.table.toList ++ " (".toList ++
      ",".toList.intercalate (statement.columns.map String.toList) ++ ") VALUES (".toList ++
      ",".toList.intercalate (List.replicate statement.placeholders "?".toList) ++ ")".toList := by
  have names : name.write = String.toList := funext write_name
  have opens : " (".toList = " ".toList ++ "(".toList := rfl
  have goesOn : ") VALUES (".toList = ")".toList ++ (" VALUES ".toList ++ "(".toList) := rfl
  simp only [insert, columnList, placeholderList, Phrase.via, Phrase.andThen, Phrase.after,
    Phrase.before, Phrase.nothing, Phrase.separated_write, names, opens, goesOn,
    List.map_replicate, List.append_assoc, List.append_nil]

/-- The range has both of its ends, so there is a placeholder too many. -/
theorem buildPlaceholders_eq (builder : StringBuilder) (count : Nat) :
    buildPlaceholders builder count = builder ++
      ",".toList.intercalate (List.replicate count "?".toList) ++ "?".toList := by
  cases count with
  | zero => simp [buildPlaceholders]
  | succ last =>
      have early : ∀ stop ≤ last, (List.range stop).foldl
          (fun builder (i : Nat) =>
            if (i : Int) < ((last + 1 : Nat) : Int) - 1 then StringBuilder.append builder "?,"
            else StringBuilder.append builder "?")
          builder = builder ++ (List.replicate stop "?,".toList).flatten := by
        intro stop
        induction stop with
        | zero => simp
        | succ stop ih =>
            intro bound
            have inside : (stop : Int) < ((last + 1 : Nat) : Int) - 1 := by omega
            rw [List.range_succ, List.foldl_append, ih (by omega), List.foldl_cons, if_pos inside]
            simp [List.replicate_succ']
      rw [buildPlaceholders, List.range_succ, List.range_succ, List.foldl_append,
        List.foldl_append, early last (Nat.le_refl last), intercalate_replicate]
      simp

theorem buildInsertSql_eq {table : String} (named : table ≠ "") {columns : List String}
    (filled : columns ≠ []) :
    buildInsertSql table columns = some ("INSERT INTO ".toList ++ table.toList ++ " (".toList ++
      ",".toList.intercalate (columns.map String.toList) ++ ") VALUES (".toList ++
      ",".toList.intercalate (List.replicate columns.length "?".toList) ++ "?".toList ++
      ")".toList) := by
  have names : ∀ builder, (forEachIndexed columns builder fun index column builder =>
        StringBuilder.append (StringBuilder.append builder column)
          (if index = columns.length - 1 then "" else ",")) =
      builder ++ ",".toList.intercalate (columns.map String.toList) := by
    intro builder
    apply forEachIndexed_separated
    intro index column builder
    simp only [append_eq, toList_separator, List.append_assoc]
  rw [buildInsertSql, if_neg (arguments_given named filled)]
  simp only [names, buildPlaceholders_eq]
  simp

example : buildInsertSql "T" ["A", "B"] = some "INSERT INTO T (A,B) VALUES (?,??)".toList := by
  decide

/-- The statement names the table and the columns, and has a placeholder for each of them. -/
def InsertReads (table : String) (columns : List String) : Prop :=
  ∃ text, buildInsertSql table columns = some text ∧
    insert.whole text = some ⟨table, columns, columns.length⟩

/-- No statement that is built has as many placeholders as columns. -/
theorem not_insertReads (table : String) (columns : List String) :
    ¬ InsertReads table columns := by
  rintro ⟨text, builds, reads⟩
  have given : table ≠ "" ∧ columns ≠ [] := by
    constructor
    · rintro rfl
      simp [buildInsertSql] at builds
    · rintro rfl
      simp [buildInsertSql] at builds
  rw [buildInsertSql_eq given.1 given.2] at builds
  have written := sound_insert.eq_write reads
  rw [← Option.some.inj builds, write_insert] at written
  have lengths := congrArg List.length written
  simp at lengths

/-- A statement for one column has two placeholders, which are no list. -/
theorem not_insertReads_small : ¬ InsertReads "T" ["A"] := by
  rintro ⟨text, builds, reads⟩
  have built : buildInsertSql "T" ["A"] = some "INSERT INTO T (A) VALUES (??)".toList := by decide
  rw [built] at builds
  rw [← Option.some.inj builds] at reads
  exact absurd reads (by decide)

/-! ## `DELETE` -/

/-- A `DELETE` and an `UPDATE` end with the same condition, which compares each of the columns. -/
def SelectsSame (table : String) (whereColumns updateColumns : List String) : Prop :=
  ∃ part, buildDeleteSql table whereColumns =
      some ("DELETE FROM ".toList ++ table.toList ++ part) ∧
    buildUpdateSql table whereColumns updateColumns =
      some ("UPDATE ".toList ++ table.toList ++ " SET ".toList ++ assignments.write updateColumns ++
        part) ∧
    part = (condition table).write whereColumns

/-- A condition with a column goes on behind the word that opens it. -/
theorem length_condition (table : String) {columns : List String} (filled : columns ≠ []) :
    " WHERE ".toList.length < ((condition table).write columns).length := by
  rw [write_condition filled, ← Phrase.separated_write]
  cases columns with
  | nil => exact absurd rfl filled
  | cons column others =>
      have placeholder : "=?".toList.length = 2 := rfl
      simp only [Phrase.separated, Phrase.after, write_assigned, List.length_append, placeholder]
      omega

/-- The columns of a `DELETE` are never written. -/
theorem buildDeleteSql_eq {table : String} (named : table ≠ "") (columns : List String) :
    buildDeleteSql table columns = some ("DELETE FROM ".toList ++ table.toList ++
      if columns.isEmpty then [] else " WHERE ".toList) := by
  by_cases empty : columns = []
  · simp [buildDeleteSql, named, empty]
  · simp [buildDeleteSql, named, empty]

theorem selectsSame_iff {table : String} {updateColumns : List String} (named : table ≠ "")
    (sets : updateColumns ≠ []) (whereColumns : List String) :
    SelectsSame table whereColumns updateColumns ↔ whereColumns = [] := by
  rw [SelectsSame]
  constructor
  · rintro ⟨part, deletes, -, same⟩
    by_contra filled
    rw [buildDeleteSql_eq named, if_neg (by simpa using filled)] at deletes
    have stops : " WHERE ".toList = part := List.append_cancel_left (Option.some.inj deletes)
    have longer := length_condition table filled
    rw [← same, ← stops] at longer
    exact Nat.lt_irrefl _ longer
  · rintro rfl
    refine ⟨[], buildDeleteSql_eq named [], ?_, rfl⟩
    rw [buildUpdateSql_eq ⟨table, updateColumns, []⟩ named sets, write_update]
    rfl

/-- Without columns, both statements are about every row. -/
theorem selectsSame_iff_small : SelectsSame "T" [] ["A"] ↔ ([] : List String) = [] :=
  selectsSame_iff (by decide) (by decide) []

/-- The `DELETE` stops where its condition should begin. -/
theorem not_selectsSame_small : ¬ SelectsSame "T" ["A"] ["B"] := by
  rintro ⟨part, deletes, updates, -⟩
  have deletion : buildDeleteSql "T" ["A"] = some "DELETE FROM T WHERE ".toList := by decide
  have updating : buildUpdateSql "T" ["A"] ["B"] =
      some "UPDATE T SET B=? WHERE T.A=?".toList := by decide
  rw [deletion] at deletes
  rw [updating] at updates
  have shorter := congrArg List.length (Option.some.inj deletes)
  have longer := congrArg List.length (Option.some.inj updates)
  have sets : assignments.write ["B"] = "B=?".toList := by decide
  simp [sets] at shorter longer
  omega

end ModuleDBSqlUtils
end ModuleDatabase
