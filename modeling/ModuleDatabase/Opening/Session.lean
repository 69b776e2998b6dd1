import ModuleDatabase.Sql.Engine

namespace ModuleDatabase
namespace Opening

open Sql

/-!
# Sessions and nested transactions

A session keeps a stack of transactions, the innermost first.  Only the
outermost one is a transaction of the database.  One that ends without having
been marked as successful marks its parent, and does not throw.

`BEGIN`, `COMMIT`, `ROLLBACK` and the two pragmas of the version number do not
fail here.
-/

/-- An entry of the stack of transactions. -/
structure Transaction where
  markedSuccessful : Bool
  childFailed : Bool
  deriving DecidableEq, Repr

namespace Transaction

def successful (transaction : Transaction) : Bool :=
  transaction.markedSuccessful && !transaction.childFailed

end Transaction

/-- A session; `saved` is what a rollback restores. -/
structure Session (V : Type) where
  conn : Conn V
  version : Int
  transactions : List Transaction
  saved : Option (Database V × Int)

abbrev InSession (V : Type) := EStateM Thrown (Session V)

section Operations

variable {V : Type}

/-- A program that only executes statements. -/
def onTables {α : Type} (program : Program V α) : InSession V α := fun session =>
  match program.run session.conn with
  | .ok value next => .ok value { session with conn := next }
  | .error thrown next => .error thrown { session with conn := next }

/-- `db.getVersion()`. -/
def getVersion : InSession V Int := fun session => .ok session.version session

/-- `db.setVersion(version)`. -/
def setVersion (version : Int) : InSession V Unit := fun session =>
  .ok () { session with version := version }

/-- `beginTransaction`. -/
def beginTransaction : InSession V Unit := fun session =>
  match session.transactions with
  | [] => .ok () { session with
      transactions := [⟨false, false⟩]
      saved := some (session.conn.db, session.version) }
  | top :: rest =>
      if top.markedSuccessful then .error .illegalState session
      else .ok () { session with transactions := ⟨false, false⟩ :: top :: rest }

/-- `setTransactionSuccessful`. -/
def setTransactionSuccessful : InSession V Unit := fun session =>
  match session.transactions with
  | [] => .error .illegalState session
  | top :: rest =>
      if top.markedSuccessful then .error .illegalState session
      else .ok () { session with transactions := { top with markedSuccessful := true } :: rest }

/-- `COMMIT`. -/
def Session.commit (session : Session V) : Session V :=
  { session with transactions := [], saved := none }

/-- `ROLLBACK`. -/
def Session.rollback (session : Session V) : Session V :=
  match session.saved with
  | none => session.commit
  | some (db, version) =>
      { session.commit with conn := { session.conn with db := db }, version := version }

/-- `endTransaction`. -/
def endTransaction : InSession V Unit := fun session =>
  match session.transactions with
  | [] => .error .illegalState session
  | [top] => .ok () (if top.successful then session.commit else session.rollback)
  | top :: parent :: outer =>
      .ok () { session with
        transactions := { parent with childFailed := parent.childFailed || !top.successful } ::
          outer }

end Operations

/-! ## Programs inside transactions -/

section Running

variable {V : Type} {α : Type} {session : Session V}

theorem run_onTables_of_ok {program : Program V α} {value : α} {next : Conn V}
    (ends : program.run session.conn = .ok value next) :
    (onTables program).run session = .ok value { session with conn := next } := by
  rw [EStateM.run, onTables, ends]

theorem ok_of_run_onTables {program : Program V α} {value : α} {next : Session V}
    (ends : (onTables program).run session = .ok value next) :
    program.run session.conn = .ok value next.conn ∧ next = { session with conn := next.conn } := by
  rw [EStateM.run, onTables] at ends
  cases runs : program.run session.conn with
  | error thrown last =>
      rw [runs] at ends
      cases ends
  | ok value' last =>
      rw [runs] at ends
      cases ends
      exact ⟨rfl, rfl⟩

/-- A loop over statements in a session is the loop on its tables. -/
theorem run_forM_onTables {ι : Type} (body : ι → Program V Unit) (values : List ι)
    (session : Session V) :
    (values.forM fun value => onTables (body value)).run session =
      (onTables (values.forM body)).run session := by
  induction values generalizing session with
  | nil => rfl
  | cons value rest ih =>
      rw [Effect.run_forM_cons]
      cases runs : (body value).run session.conn with
      | error thrown last =>
          have here : (onTables (body value)).run session =
              .error thrown { session with conn := last } := by
            rw [EStateM.run, onTables, runs]
          rw [here, EStateM.run, onTables, Effect.run_forM_cons, runs]
      | ok done last =>
          rw [run_onTables_of_ok runs]
          dsimp only
          rw [ih, EStateM.run, EStateM.run, onTables, onTables, Effect.run_forM_cons, runs]

end Running

end Opening
end ModuleDatabase
