set_option autoImplicit false

/-! # Errors

What can go wrong while a statement is described, rendered or executed. -/

namespace SqlBuilder

/-- The causes of failure. -/
inductive QueryError where
  /-- A function call has a blank name. -/
  | emptyFunction
  /-- Something that is described by `what` stands where a name must stand. -/
  | notAName (what : String)
  /-- A comparison uses an operator outside the allow-list. -/
  | operatorNotAllowed (operator : String)
  /-- The name placeholder number `position` of a fragment has no parameter. -/
  | missingName (position : Nat)
  /-- The clauses of a statement do not make a statement. -/
  | invalid (reason : String)
  /-- The executor failed. -/
  | execution (reason : String)
  /-- The executor answered with output that the statement does not yield. -/
  | unexpectedOutput (reason : String)
deriving DecidableEq, Repr

namespace QueryError

/-- The text shown for an error. -/
def message : QueryError → String
  | emptyFunction => "Cannot create function expression without arguments"
  | notAName what => "Cannot escape " ++ what ++ " as an identifier"
  | operatorNotAllowed operator => "Operator not allowed: '" ++ operator ++ "'"
  | missingName position =>
    "Raw expression has no parameter for identifier placeholder #" ++ position.repr
  | invalid reason => "Validation error: " ++ reason
  | execution reason => "Execution error: " ++ reason
  | unexpectedOutput reason => "Unexpected executor output: " ++ reason

/-- Whether the error came from the executor. -/
def isExecution : QueryError → Bool
  | execution _ => true
  | _ => false

/-- Whether the error was raised by a part that has no rendering. -/
def isRenderError : QueryError → Bool
  | notAName _ => true
  | missingName _ => true
  | _ => false

/-- An insert that adds no row. -/
def insertWithoutRows : QueryError := invalid "insert has no rows"

/-- An update that sets no column. -/
def updateWithoutAssignments : QueryError := invalid "update has no SET columns"

/-- A join whose condition list is empty; `table` is the rendered table. -/
def joinWithoutConditions (table : String) : QueryError :=
  invalid ("join on " ++ table ++ " has no conditions")

/-- A select that was answered with the number `n` of affected rows. -/
def selectAnsweredByCount (n : Nat) : QueryError :=
  unexpectedOutput ("select returned an affected-row count (" ++ n.repr ++ ")")

end QueryError

end SqlBuilder
