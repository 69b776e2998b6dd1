import ModuleDatabase.Base.Run
import ModuleDatabase.Base.Grammar
import ModuleDatabase.Base.Builder
import ModuleDatabase.Utils.ModuleDBSqlUtils
import ModuleDatabase.Utils.Statements
import ModuleDatabase.Utils.Literals
import ModuleDatabase.Pool.Ending
import ModuleDatabase.Session.Yielding
import ModuleDatabase.Session.Trapped
import ModuleDatabase.Cursor.SQLiteCursor
import ModuleDatabase.Prepared.Runs
import ModuleDatabase.Log.Recent
import ModuleDatabase.Connection.Steps
import ModuleDatabase.Connection.Coherence
import ModuleDatabase.Connection.Preservation
import ModuleDatabase.Connection.Delivery
import ModuleDatabase.Connection.Recovery
import ModuleDatabase.Connection.Interleaving
import ModuleDatabase.Tokenizer.Wcicu
import ModuleDatabase.Tokenizer.Decoding
import ModuleDatabase.Tokenizer.Segments
import ModuleDatabase.Tokenizer.Progress
import ModuleDatabase.Tokenizer.Coverage
import ModuleDatabase.Tokenizer.Walk
import ModuleDatabase.Tokenizer.Failures
import ModuleDatabase.Tokenizer.WorkBuffer
import ModuleDatabase.Tokenizer.Conversion
import ModuleDatabase.Base.Text
import ModuleDatabase.Base.Scanning
import ModuleDatabase.Sql.Table
import ModuleDatabase.Sql.Database
import ModuleDatabase.Sql.Engine
import ModuleDatabase.Sql.Lexer
import ModuleDatabase.Sql.RootCase
import ModuleDatabase.Migration.Config
import ModuleDatabase.Migration.Helper
import ModuleDatabase.Migration.Reading
import ModuleDatabase.Migration.Backup
import ModuleDatabase.Migration.Rebuild
import ModuleDatabase.Migration.Restore
import ModuleDatabase.Migration.Independence
import ModuleDatabase.Migration.Phases
import ModuleDatabase.Migration.Conservation
import ModuleDatabase.Migration.Loss
import ModuleDatabase.Migration.Leftovers
import ModuleDatabase.Migration.Passes
import ModuleDatabase.Migration.AllTables
import ModuleDatabase.Migration.Fidelity
import ModuleDatabase.Migration.Agreement
import ModuleDatabase.Migration.Matching
import ModuleDatabase.Migration.Frame
import ModuleDatabase.Migration.Bystanders
import ModuleDatabase.Migration.Recreation
import ModuleDatabase.Migration.Survivors
import ModuleDatabase.Migration.Repetition
import ModuleDatabase.Migration.Sets
import ModuleDatabase.Opening.DatabaseHelper
import ModuleDatabase.Opening.Creation
import ModuleDatabase.Opening.Upgrade
import ModuleDatabase.Opening.Completeness
import ModuleDatabase.Opening.Stepwise
import ModuleDatabase.Sql.Reference
import ModuleDatabase.Processor.Entries
import ModuleDatabase.Processor.ModuleProcessor
import ModuleDatabase.Processor.Denotation
import ModuleDatabase.Processor.Directives
import ModuleDatabase.Processor.BlankNames
import ModuleDatabase.Processor.Meaning
import ModuleDatabase.Base.Ensures
