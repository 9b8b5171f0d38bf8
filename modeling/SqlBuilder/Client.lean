import SqlBuilder.Client.Execution
import SqlBuilder.Steps.Insert
import SqlBuilder.Steps.Select
import SqlBuilder.Steps.Update

set_option autoImplicit false

/-! # Clients

A client makes statements that are attached to its executor and carry its configuration. -/

namespace SqlBuilder

/-! ## Configuration -/

/-- The configuration of a client. -/
structure Config where
  /-- The debug flag of the statements. -/
  debug : Bool := false
  /-- How many characters of SQL the log shows; without a number, all. -/
  maxLoggedSql : Option Nat := some 200
deriving DecidableEq, Repr

/-- A step on a configuration. -/
inductive ConfigStep where
  | debug (flag : Bool)
  | maxLoggedSql (length : Nat)
  | noTruncate
deriving DecidableEq, Repr

namespace Config

/-- Whether the environment asks for debugging: a variable that says so, up to blanks around it and
the case of its letters. -/
def asksForDebug (environment : Option String) : Bool :=
  match environment with
  | some name => sameUpToCase (String.ofList (Text.trim name.toList)) "development"
  | none => false

/-- The configuration that the environment asks for. -/
def ofEnvironment (environment : Option String) : Config :=
  { debug := asksForDebug environment }

/-- The events of reading the environment. -/
def environmentEvents (environment : Option String) : List Event :=
  if asksForDebug environment then [.debugFromEnvironment] else []

/-- Takes one step. -/
def apply (config : Config) : ConfigStep → Config
  | .debug flag => { config with debug := flag }
  | .maxLoggedSql length => { config with maxLoggedSql := some length }
  | .noTruncate => { config with maxLoggedSql := none }

end Config

/-! ## Statements of a client -/

/-- The handle of a statement that is attached to an executor without a client. -/
def Handle.plain : Handle :=
  ⟨Config.maxLoggedSql {}⟩

/-- What a client knows; the executor itself is given to each run. -/
structure Client where
  config : Config := {}

namespace Client

/-- The settings of the statements that a client makes. -/
def settings (client : Client) : Settings :=
  { handle := some ⟨client.config.maxLoggedSql⟩, debug := client.config.debug }

/-- A statement without clauses. -/
def statement (client : Client) (kind : StatementKind) (table : Table) : Statement :=
  (Statement.ofTable table kind).withSettings client.settings

/-- A select without clauses. -/
def select (client : Client) (table : Table) : Select :=
  { Select.ofTable table with settings := client.settings }

/-- A select for one row. -/
def selectSingleRow (client : Client) (table : Table) : Select :=
  (client.select table).apply (.tail (.limit 1))

/-- A select for one value of one row. -/
def selectUniqueValue (client : Client) (table : Table) (column : String) : Select :=
  ((client.select table).apply (.column (.name column))).apply (.tail (.limit 1))

end Client

/-- The statement attached to an executor. -/
def Statement.attach (s : Statement) : Statement :=
  s.withSettings (s.settings.apply (.attach .plain))

/-! ## Descriptions -/

/-- A length limit in words. -/
def describeLimit : Option Nat → String
  | none => "None"
  | some n => "Some(" ++ n.repr ++ ")"

/-- A flag in words. -/
def describeFlag (b : Bool) : String :=
  if b then "true" else "false"

/-- A handle in words; what is behind it is left out. -/
def Handle.describe (handle : Handle) : String :=
  "ExecutorHandle \x7b max_logged_sql: " ++ describeLimit handle.maxLoggedSql ++ ", .. \x7d"

/-- A client in words; its executor is left out. -/
def Client.describe (client : Client) : String :=
  "QueryClient \x7b config: ClientConfig \x7b debug: " ++ describeFlag client.config.debug
    ++ ", max_logged_sql: " ++ describeLimit client.config.maxLoggedSql ++ " \x7d, .. \x7d"

end SqlBuilder
