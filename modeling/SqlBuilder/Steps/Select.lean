import SqlBuilder.Steps.Settings

set_option autoImplicit false

/-! # Steps that build a select -/

namespace SqlBuilder

/-! ## The condition of a join

Comparisons between columns, combined with And and Or. As in conditions on rows, an operator outside
the allow-list adds nothing and the first one is remembered. -/

/-- The condition of a join under construction. -/
structure JoinOn where
  conditions : List OnCondition := []
  rejected : Option String := none

/-- A step that adds a comparison. -/
inductive OnStep where
  /-- A column equals a key. -/
  | equal (combinator : Combinator) (column : String) (key : JoinKey)
  /-- A column is compared with a key. -/
  | compare (combinator : Combinator) (column operator : String) (key : JoinKey)

namespace JoinOn

/-- Adds a comparison with an operator that a caller gives. -/
def compare (join : JoinOn) (combinator : Combinator) (column operator : String) (key : JoinKey) :
    JoinOn :=
  if isAllowedOperator operator then
    { join with conditions := join.conditions ++ [⟨combinator, column, operator, key⟩] }
  else
    { join with rejected := firstRejected join.rejected (some operator) }

/-- Takes one step. -/
def apply (join : JoinOn) : OnStep → JoinOn
  | .equal combinator column key => join.compare combinator column "=" key
  | .compare combinator column operator key => join.compare combinator column operator key

/-- The condition that steps build. -/
def ofSteps (steps : List OnStep) : JoinOn :=
  steps.foldl apply {}

end JoinOn

/-! ## Selects -/

/-- A step on a select. -/
inductive SelectStep where
  | filter (step : WhereStep)
  | tail (step : TailStep)
  | setting (step : SettingStep)
  | column (expr : ColumnExpr)
  | columnAs (expr : ColumnExpr) (label : String)
  | columns (exprs : List ColumnExpr)
  /-- Adds labelled entries; each label stands before its entry. -/
  | columnsAs (entries : List (String × ColumnExpr))
  | distinct (flag : Bool)
  /-- Counts the rows, under the label `c`. -/
  | count
  /-- Counts the rows in which an operand is not null. -/
  | countOf (operand : Operand) (label : String)
  | groupBy (column : String)
  | groupByEach (columns : List String)
  /-- Joins a table whose column compares with a key. -/
  | join (kind : JoinKind) (table : Table) (column operator : String) (key : JoinKey)
  /-- Joins a table whose column equals a key. -/
  | joinEqual (kind : JoinKind) (table : Table) (column : String) (key : JoinKey)
  /-- Joins a table by several comparisons. -/
  | joinOn (kind : JoinKind) (table : Table) (steps : List OnStep)

namespace Select

/-- Adds an entry to the select list. -/
def addColumn (s : Select) (expr : ColumnExpr) (label : Option String) : Select :=
  { s with columns := s.columns ++ [⟨expr, label⟩] }

/-- What is counted: a blank text and a star count rows. -/
def countArgument (operand : Operand) : Operand :=
  match operand with
  | .value (.text s) =>
    let name := Text.trim s.toList
    if name = [] ∨ name = ['*'] then .raw { sql := "*" } else operand
  | other => other

/-- Adds a count to the select list. -/
def addCount (s : Select) (operand : Operand) (label : String) : Select :=
  s.addColumn (.call ⟨"Count", [countArgument operand]⟩) (some label)

/-- Adds a join. -/
def addJoin (s : Select) (join : Join) : Select :=
  { s with joins := s.joins ++ [join] }

/-- Remembers a refused operator. -/
def reject (s : Select) (operator : String) : Select :=
  { s with settings := s.settings.reject operator }

/-- Adds a join by one comparison with an operator that a caller gives. -/
def joinKeys (s : Select) (kind : JoinKind) (table : Table) (column operator : String)
    (key : JoinKey) : Select :=
  if isAllowedOperator operator then
    s.addJoin ⟨kind, table, .keys column operator key⟩
  else
    s.reject operator

/-- Adds a join by several comparisons. If one of their operators was refused, there is no join. -/
def joinOn (s : Select) (kind : JoinKind) (table : Table) (join : JoinOn) : Select :=
  match join.rejected with
  | some operator => s.reject operator
  | none => s.addJoin ⟨kind, table, .several join.conditions⟩

/-- Adds conditions. -/
def filter (s : Select) (step : WhereStep) : Select :=
  let group := step.apply (s.settings.whereGroup s.predicates)
  { s with predicates := group.predicates, settings := s.settings.afterWhere group }

/-- Takes one step. -/
def apply (s : Select) : SelectStep → Select
  | .filter step => s.filter step
  | .tail step => { s with tail := s.tail.apply step }
  | .setting step => { s with settings := s.settings.apply step }
  | .column expr => s.addColumn expr none
  | .columnAs expr label => s.addColumn expr (some label)
  | .columns exprs => exprs.foldl (fun s expr => s.addColumn expr none) s
  | .columnsAs entries => entries.foldl (fun s entry => s.addColumn entry.2 (some entry.1)) s
  | .distinct flag => { s with distinct := flag }
  | .count => s.addCount (.value (.text "*")) "c"
  | .countOf operand label => s.addCount operand label
  | .groupBy column => { s with groupBy := s.groupBy ++ [column] }
  | .groupByEach columns => { s with groupBy := s.groupBy ++ columns }
  | .join kind table column operator key => s.joinKeys kind table column operator key
  | .joinEqual kind table column key => s.joinKeys kind table column "=" key
  | .joinOn kind table steps => s.joinOn kind table (.ofSteps steps)

/-- The select that steps build. -/
def ofSteps (table : Table) (steps : List SelectStep) : Select :=
  steps.foldl apply (.ofTable table)

end Select

end SqlBuilder
