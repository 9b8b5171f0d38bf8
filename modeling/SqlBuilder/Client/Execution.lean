import SqlBuilder.Client.Log
import SqlBuilder.Client.Row

set_option autoImplicit false

/-! # Execution

Statements are handed to an executor, which is the only part that talks to a database. Everything
that happens on the way, events and calls of the executor, is kept in a journal in its order. -/

namespace SqlBuilder

/-- A call of the executor. -/
structure Request where
  query : Query
  debug : Bool

/-- What a run does, seen from outside. -/
inductive Action where
  | event (event : Event)
  | call (request : Request)

/-- An executor with a state of its own. -/
abbrev Executor (σ : Type) : Type := Request → StateM σ (Except QueryError QueryOutput)

/-- The state of a run: the state of the executor, and what has happened so far. -/
structure World (σ : Type) where
  executor : σ
  journal : List Action := []

/-- A part of a run. -/
abbrev Run (σ : Type) : Type → Type := ExceptT QueryError (StateM (World σ))

/-- The events of a journal. -/
def eventsOf (journal : List Action) : List Event :=
  journal.filterMap fun action =>
    match action with
    | .event event => some event
    | .call _ => none

/-- The calls of a journal. -/
def callsOf (journal : List Action) : List Request :=
  journal.filterMap fun action =>
    match action with
    | .event _ => none
    | .call request => some request

namespace Run

variable {σ : Type}

/-- Writes an action into the journal. -/
def note (action : Action) : Run σ Unit :=
  modify fun world => { world with journal := world.journal ++ [action] }

/-- Writes events into the journal. -/
def log (events : List Event) : Run σ Unit :=
  modify fun world => { world with journal := world.journal ++ events.map .event }

/-- Calls the executor. -/
def call (executor : Executor σ) (request : Request) : Run σ (Except QueryError QueryOutput) := do
  note (.call request)
  modifyGet fun world =>
    let answer := executor request world.executor
    (answer.1, { world with executor := answer.2 })

/-- Succeeds or fails as an outcome says. -/
def ofOutcome {α : Type} (outcome : Except QueryError α) : Run σ α :=
  match outcome with
  | .ok a => pure a
  | .error e => throw e

end Run

/-- The event of handing a query to the executor. -/
def Handle.executingEvent (handle : Handle) (kind : StatementKind) (request : Request) : Event :=
  .executing kind request.query.params.length (cutForLog handle.maxLoggedSql request.query.sql)
    (if request.debug then some (cutForLog handle.maxLoggedSql request.query.debugSql) else none)

namespace Statement

variable {σ : Type}

/-- Builds a statement and logs it. -/
def buildLogged (s : Statement) : Run σ Query := do
  Run.log s.buildEvents
  Run.ofOutcome s.build

/-- Hands a query to the executor and logs a failure. -/
def run (executor : Executor σ) (handle : Handle) (kind : StatementKind) (request : Request) :
    Run σ QueryOutput := do
  Run.log [handle.executingEvent kind request]
  match ← Run.call executor request with
  | .ok output => return output
  | .error e =>
    Run.log [.failed kind e (cutForLog handle.maxLoggedSql request.query.sql)]
    throw e

/-- Builds a statement and hands it to the executor it is attached to, if there is one. -/
def execute (executor : Executor σ) (s : Statement) : Run σ (Option QueryOutput) := do
  let query ← s.buildLogged
  match s.settings.handle with
  | none => return none
  | some handle => some <$> run executor handle s.kind { query, debug := s.settings.debug }

/-- The debug SQL of a statement, which is built and logged. -/
def debugSqlLogged (s : Statement) : Run σ String :=
  Query.debugSql <$> s.buildLogged

end Statement

namespace Select

variable {σ : Type}

/-- Executes a select and gives its rows. A number is no answer to a select. -/
def get (executor : Executor σ) (s : Select) : Run σ (Option (List Row)) := do
  match ← (Statement.select s).execute executor with
  | none => return none
  | some (.rows rows) => return some rows
  | some (.count n) => throw (.selectAnsweredByCount n.toNat)

/-- The select limited to one row, after the same offset. -/
def limitedToOne (s : Select) : Select :=
  let offset := s.tail.limit.bind (·.offset)
  { s with tail := { s.tail with limit := some { count := some 1, offset } } }

/-- Executes a select for one row and gives the first. -/
def first (executor : Executor σ) (s : Select) : Run σ (Option Row) := do
  let rows ← s.limitedToOne.get executor
  return rows.bind List.head?

/-- Executes a select for one row and gives the first value of the first. -/
def value (executor : Executor σ) (s : Select) : Run σ (Option Value) := do
  let row ← s.first executor
  return row.bind Row.first?

end Select

end SqlBuilder
