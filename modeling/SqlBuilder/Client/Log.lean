import SqlBuilder.Query

set_option autoImplicit false

/-! # The log

The events that building and running statements leave in a log. The values of a statement show in an
event only when its debug flag is set. -/

namespace SqlBuilder

/-- The weight of an event. -/
inductive Level where
  | trace
  | debug
  | info
  | warn
deriving DecidableEq, Repr

/-- The word for a level. -/
def Level.text : Level → String
  | trace => "TRACE"
  | debug => "DEBUG"
  | info => "INFO"
  | warn => "WARN"

/-- An event of the log. -/
inductive Event where
  /-- A statement, or a select inside one, was rendered. -/
  | compiled (kind : StatementKind) (paramCount : Nat)
  /-- A statement is handed to the executor. `expanded` is its debug SQL, if the debug flag is
  set. -/
  | executing (kind : StatementKind) (paramCount : Nat) (sql : String) (expanded : Option String)
  /-- The executor failed. -/
  | failed (kind : StatementKind) (error : QueryError) (sql : String)
  /-- The environment turned the debug flag on. -/
  | debugFromEnvironment
deriving DecidableEq, Repr

/-- A value in an event. -/
inductive EventField where
  | text (s : String)
  | number (n : Nat)
  | flag (b : Bool)
deriving DecidableEq, Repr

namespace Event

/-- The level of an event. -/
def level : Event → Level
  | compiled _ _ => .trace
  | executing _ _ _ (some _) => .info
  | executing _ _ _ none => .debug
  | failed _ _ _ => .warn
  | debugFromEnvironment => .debug

/-- The part of the log that an event belongs to. -/
def target : Event → String
  | compiled _ _ => "sqlforge.compile"
  | executing _ _ _ _ => "sqlforge.sql"
  | failed _ _ _ => "sqlforge.sql"
  | debugFromEnvironment => "sqlforge.config"

/-- The fields of an event. -/
def fields : Event → List (String × EventField)
  | compiled kind paramCount =>
    [("message", .text "compiled statement"), ("statement", .text kind.text),
      ("param_count", .number paramCount)]
  | executing kind paramCount sql expanded =>
    [("message", .text "executing statement"), ("statement", .text kind.text),
      ("param_count", .number paramCount), ("debug", .flag expanded.isSome), ("sql", .text sql)]
      ++ (match expanded with
        | some expanded => [("expanded", .text expanded)]
        | none => [])
  | failed kind error sql =>
    [("message", .text "statement failed"), ("statement", .text kind.text),
      ("error", .text error.message), ("sql", .text sql)]
  | debugFromEnvironment => [("message", .text "debug rendering enabled from APP_ENV")]

end Event

/-- The events of building a statement: one for each subquery that was finished, and one for the
statement if it was. -/
def Statement.buildEvents (s : Statement) : List Event :=
  let nested := s.outcome.2.nested.map (Event.compiled .select)
  match s.outcome.1 with
  | .ok _ => nested ++ [.compiled s.kind s.outcome.2.params.length]
  | .error _ => nested

/-- A text in the log, cut after `limit` characters, and marked if it was cut. -/
def cutForLog (limit : Option Nat) (sql : String) : String :=
  match limit with
  | none => sql
  | some limit =>
    if limit < sql.toList.length then String.ofList (sql.toList.take limit) ++ "..." else sql

end SqlBuilder
