import SqlBuilder.Fragment
import SqlBuilder.Text.Casing

set_option autoImplicit false

/-! # Statements

The four kinds of statement as data. A select can stand inside other statements: as an operand, a
column, a table, or in a predicate. The types are therefore defined together. -/

namespace SqlBuilder

/-! ## Comparison operators

Operators reach the SQL text as they are given, so only those of a fixed list are let through. -/

/-- The operators that a comparison may use, in any case of their ASCII letters. -/
def allowedOperators : List String :=
  ["=", "<", ">", "<=", ">=", "<>", "!=", "like", "in", "not in", "is", "is not", "between",
    "not between", "exists", "not exists"]

/-- Whether two texts agree up to the case of ASCII letters. -/
def sameUpToCase (s t : String) : Bool :=
  s.toList.map Char.toLower == t.toList.map Char.toLower

/-- Whether an operator is on the list, up to the case of ASCII letters. -/
def isAllowedOperator (operator : String) : Bool :=
  allowedOperators.any (sameUpToCase · operator)

/-! ## Parts without subqueries -/

/-- How a condition is joined to the one before it. The first of a list has no one before it. -/
inductive Combinator where
  | and
  | or
deriving DecidableEq, Repr, Inhabited

/-- The direction of a sort; ascending unless stated otherwise. -/
inductive Direction where
  | ascending
  | descending
deriving DecidableEq, Repr, Inhabited

/-- The kinds of join. -/
inductive JoinKind where
  | left
  | right
  | inner
  | outer
deriving DecidableEq, Repr

/-- A column to sort by. -/
structure OrderItem where
  column : String
  direction : Direction
deriving DecidableEq, Repr

/-- How many rows a statement is limited to, and how many are passed over first. -/
structure Limit where
  count : Option Nat := none
  offset : Option Nat := none
deriving DecidableEq, Repr

/-- The end of a statement: the order of its rows and their limit. -/
structure Tail where
  orderBy : List OrderItem := []
  limit : Option Limit := none
deriving DecidableEq, Repr

/-- What a statement knows of the executor that it is attached to: how many characters of SQL the
log shows, or that all are shown. -/
structure Handle where
  maxLoggedSql : Option Nat
deriving DecidableEq, Repr

/-- What a statement carries beside its clauses. -/
structure Settings where
  /-- SQL that replaces the whole statement. -/
  override : Option Fragment := none
  /-- The executor that runs the statement. -/
  handle : Option Handle := none
  /-- The flag that is handed to the executor. -/
  debug : Bool := false
  /-- The first operator that was refused while the statement was put together. -/
  rejected : Option String := none

/-- The right side of a comparison between columns. -/
inductive JoinKey where
  | column (name : String)
  | raw (fragment : Fragment)

/-- A comparison in the condition of a join. -/
structure OnCondition where
  combinator : Combinator
  column : String
  operator : String
  key : JoinKey

/-- How the rows of a join are matched. -/
inductive JoinCondition where
  /-- By one comparison. -/
  | keys (column operator : String) (key : JoinKey)
  /-- By several, combined with And and Or. -/
  | several (conditions : List OnCondition)

/-! ## Selects and what can hold them -/

mutual

/-- What can stand where a value is expected. -/
inductive Operand where
  | value (v : Value)
  | list (items : List Operand)
  | raw (fragment : Fragment)
  | call (call : Call)
  | query (select : Select)

/-- A function call. -/
structure Call where
  name : String
  args : List Operand

/-- What can be selected. -/
inductive ColumnExpr where
  | name (name : String)
  | raw (fragment : Fragment)
  | call (call : Call)
  | query (select : Select)

/-- An entry of a select list, with the label that renames it. -/
structure Column where
  expr : ColumnExpr
  label : Option String

/-- What a statement works on. -/
inductive Table where
  | named (name : String)
  | labelled (name label : String)
  /-- The rows of a subquery. -/
  | derived (select : Select) (label : String)

/-- A joined table. -/
structure Join where
  kind : JoinKind
  table : Table
  condition : JoinCondition

/-- A condition on rows. -/
inductive Predicate where
  /-- A comparison. The tests for existence have no column. -/
  | compare (combinator : Combinator) (column : Option String) (operator : String)
      (value : Operand)
  | raw (combinator : Combinator) (fragment : Fragment)
  /-- Conditions in parentheses. -/
  | group (combinator : Combinator) (predicates : List Predicate)

/-- A select. -/
structure Select where
  settings : Settings
  table : Table
  columns : List Column
  distinct : Bool
  joins : List Join
  predicates : List Predicate
  groupBy : List String
  tail : Tail

end

/-- A select of all columns and rows of a table. -/
def Select.ofTable (table : Table) : Select :=
  { settings := {}, table, columns := [], distinct := false, joins := [], predicates := [],
    groupBy := [], tail := {} }

/-- The combinator of a predicate. -/
def Predicate.combinator : Predicate → Combinator
  | compare combinator _ _ _ => combinator
  | raw combinator _ => combinator
  | group combinator _ => combinator

/-- What kind of operand it is, in words. -/
def Operand.describe : Operand → String
  | value v => v.describe
  | list _ => "a list"
  | raw _ => "a raw expression"
  | call _ => "a function call"
  | query _ => "a subquery"

/-! ## Function calls

The name of a function is trimmed and its words are capitalised; a blank name is refused. -/

namespace Call

/-- A call of the function with a name that a caller gives. -/
def ofName (name : String) (args : List Operand) : Except QueryError Call :=
  match Text.trim name.toList with
  | [] => .error .emptyFunction
  | chars => .ok ⟨String.ofList (Text.capitalizeWords true chars), args⟩

/-- The call with one more argument. -/
def arg (call : Call) (operand : Operand) : Call :=
  { call with args := call.args ++ [operand] }

end Call

/-! ## The other statements -/

/-- What an insert does to a row that is there already. -/
inductive DuplicateUpdate where
  /-- Sets a column to an operand. -/
  | assign (column : String) (value : Operand)
  /-- Sets a column to the value that was to be inserted. -/
  | fromValues (column : String)

/-- An insert. -/
structure Insert where
  settings : Settings := {}
  table : Table
  columns : List String := []
  rows : List (List Operand) := []
  duplicates : List DuplicateUpdate := []
  ignore : Bool := false

/-- An update. -/
structure Update where
  settings : Settings := {}
  table : Table
  assignments : List (String × Operand) := []
  predicates : List Predicate := []
  tail : Tail := {}

/-- A delete. -/
structure Delete where
  settings : Settings := {}
  table : Table
  predicates : List Predicate := []
  tail : Tail := {}

/-- A statement of any kind. -/
inductive Statement where
  | select (s : Select)
  | insert (s : Insert)
  | update (s : Update)
  | delete (s : Delete)

/-- The kinds of statement. -/
inductive StatementKind where
  | select
  | insert
  | update
  | delete
deriving DecidableEq, Repr

/-- The word for a kind of statement. -/
def StatementKind.text : StatementKind → String
  | select => "select"
  | insert => "insert"
  | update => "update"
  | delete => "delete"

namespace Statement

/-- The kind of a statement. -/
def kind : Statement → StatementKind
  | select _ => .select
  | insert _ => .insert
  | update _ => .update
  | delete _ => .delete

/-- A statement of a kind without any clauses. -/
def ofTable (table : Table) : StatementKind → Statement
  | .select => .select (.ofTable table)
  | .insert => .insert { table }
  | .update => .update { table }
  | .delete => .delete { table }

/-- What a statement carries beside its clauses. -/
def settings : Statement → Settings
  | select s => s.settings
  | insert s => s.settings
  | update s => s.settings
  | delete s => s.settings

/-- The statement with other settings. -/
def withSettings (settings : Settings) : Statement → Statement
  | select s => select { s with settings }
  | insert s => insert { s with settings }
  | update s => update { s with settings }
  | delete s => delete { s with settings }

end Statement

end SqlBuilder
