import SqlBuilder.Statement

set_option autoImplicit false

/-! # Rendering

Statements as SQL text with placeholders, and the values that are bound to them. Rendering collects
the values while it writes, so the values follow the order of the placeholders; the values collected
before a part fails stay collected.

An operand has two renderings. Where a name is expected a text is quoted and nothing else can stand
for a name; where a value is expected a scalar becomes a placeholder and is bound. -/

namespace SqlBuilder

/-- What rendering has collected. -/
structure Bindings where
  /-- The values bound so far, in the order of their placeholders. -/
  params : List Value := []
  /-- How many values each subquery binds that has been rendered so far, in the order in which they
  were finished. -/
  nested : List Nat := []

/-- A rendering: text or an error, and in both cases what was collected. -/
abbrev Render : Type → Type := ExceptT QueryError (StateM Bindings)

/-- Collects values. -/
def bindAll (values : List Value) : Render Unit :=
  modify fun bindings => { bindings with params := bindings.params ++ values }

/-- Collects the value of one placeholder. -/
def placeholder (v : Value) : Render String := do
  bindAll [v]
  return "?"

/-- Renders a select on its own and puts it in parentheses. Its values are collected only if it
succeeds. -/
def subquery (select : Render String) : Render String :=
  ExceptT.mk fun outer =>
    match select.run { nested := outer.nested } with
    | (.ok sql, inner) =>
      (.ok ("(" ++ sql ++ ")"),
        { params := outer.params ++ inner.params,
          nested := inner.nested ++ [inner.params.length] })
    | (.error e, inner) => (.error e, { outer with nested := inner.nested })

/-! ## Texts without subqueries -/

/-- The word for a combinator. -/
def Combinator.keyword : Combinator → String
  | and => "And"
  | or => "Or"

/-- The word for a direction. -/
def Direction.keyword : Direction → String
  | ascending => "Asc"
  | descending => "Desc"

/-- The word for a kind of join. -/
def JoinKind.keyword : JoinKind → String
  | left => "Left"
  | right => "Right"
  | inner => "Inner"
  | outer => "Outer"

/-- Texts with commas between them. -/
def commas (parts : List String) : String :=
  ", ".intercalate parts

/-- A function call, given its rendered arguments. -/
def callText (name : String) (args : List String) : String :=
  name ++ "(" ++ commas args ++ ")"

/-- Conditions one after the other, each but the first with its combinator in front. -/
def conditionText : List (Combinator × String) → String
  | [] => ""
  | first :: rest =>
    first.2 ++ String.join (rest.map fun part => " " ++ part.1.keyword ++ " " ++ part.2)

/-- A fragment with its names in place; what remains of its parameters is bound. -/
def Fragment.render (fragment : Fragment) : Render String :=
  match fragment.expand with
  | .ok (sql, params) => do
    bindAll params
    return sql
  | .error e => throw e

/-- The right side of a comparison between columns. -/
def JoinKey.render : JoinKey → Render String
  | column name => return escape name
  | raw fragment => fragment.render

/-- A comparison between columns. -/
def renderKeys (column operator : String) (key : JoinKey) : Render String := do
  let key ← key.render
  return escape column ++ " " ++ operator ++ " " ++ key

/-- The comparisons of a join, each with its combinator. -/
def renderOnParts : List OnCondition → Render (List (Combinator × String))
  | [] => return []
  | condition :: rest => do
    let text ← renderKeys condition.column condition.operator condition.key
    let rest ← renderOnParts rest
    return (condition.combinator, text) :: rest

/-- The comparisons of a join. -/
def renderOn (conditions : List OnCondition) : Render String := do
  let parts ← renderOnParts conditions
  return conditionText parts

/-- The condition of a join; `table` is its rendered table. A list of comparisons must not be
empty. -/
def JoinCondition.render (table : String) : JoinCondition → Render String
  | keys column operator key => renderKeys column operator key
  | several [] => throw (.joinWithoutConditions table)
  | several (condition :: rest) => renderOn (condition :: rest)

/-- The grouping of rows, if there is one. -/
def groupByText : List String → String
  | [] => ""
  | columns => " Group By " ++ commas (columns.map escape)

/-- A column to sort by. -/
def OrderItem.text (item : OrderItem) : String :=
  escape item.column ++ " " ++ item.direction.keyword

/-- The order of rows, if there is one. -/
def orderByText : List OrderItem → String
  | [] => ""
  | items => " Order By " ++ commas (items.map OrderItem.text)

/-- The limit of rows, if it has a count. The offset stands before the count. -/
def limitText : Option Limit → String
  | some ⟨some count, some offset⟩ => " Limit " ++ offset.repr ++ ", " ++ count.repr
  | some ⟨some count, none⟩ => " Limit " ++ count.repr
  | _ => ""

/-- The end of a statement. -/
def Tail.text (tail : Tail) : String :=
  orderByText tail.orderBy ++ limitText tail.limit

/-- The column list of an insert, if there is one. -/
def insertColumnsText : List String → String
  | [] => ""
  | columns => " (" ++ commas (columns.map escape) ++ ")"

/-- A statement with these settings, given how its clauses render. A refused operator fails the
statement, and otherwise an override replaces it. -/
def Settings.render (settings : Settings) (clauses : Render String) : Render String :=
  match settings.rejected with
  | some operator => throw (.operatorNotAllowed operator)
  | none =>
    match settings.override with
    | some fragment => fragment.render
    | none => clauses

/-! ## Texts that may hold subqueries -/

/-- A column with its label. -/
def labelText (sql : String) : Option String → String
  | none => sql
  | some label => sql ++ " as " ++ escape label

/-- The select list; all columns if it is empty. -/
def selectListText : List String → String
  | [] => "*"
  | columns => commas columns

/-- The conditions on rows, if there are any. -/
def whereText : List (Combinator × String) → String
  | [] => ""
  | parts => " Where " ++ conditionText parts

mutual

/-- An operand where a name is expected. -/
def Operand.renderName : Operand → Render String
  | .value (.text name) => return escape name
  | .value v => throw (.notAName v.describe)
  | .list _ => throw (.notAName "a list")
  | .raw fragment => fragment.render
  | .call call => call.renderName
  | .query select => subquery select.render

/-- A call whose arguments are names. -/
def Call.renderName : Call → Render String
  | ⟨name, args⟩ => do
    let args ← renderNames args
    return callText name args

/-- Operands where names are expected. -/
def renderNames : List Operand → Render (List String)
  | [] => return []
  | operand :: rest => do
    let text ← operand.renderName
    let rest ← renderNames rest
    return text :: rest

/-- An operand where a value is expected. -/
def Operand.renderValue : Operand → Render String
  | .value v => placeholder v
  | .list items => do
    let items ← renderValues items
    return "(" ++ commas items ++ ")"
  | .raw fragment => fragment.render
  | .call call => call.renderValue
  | .query select => subquery select.render

/-- A call whose arguments are values. -/
def Call.renderValue : Call → Render String
  | ⟨name, args⟩ => do
    let args ← renderValues args
    return callText name args

/-- Operands where values are expected. -/
def renderValues : List Operand → Render (List String)
  | [] => return []
  | operand :: rest => do
    let text ← operand.renderValue
    let rest ← renderValues rest
    return text :: rest

/-- What is selected. -/
def ColumnExpr.render : ColumnExpr → Render String
  | .name name => return escape name
  | .raw fragment => fragment.render
  | .call call => call.renderName
  | .query select => subquery select.render

/-- An entry of a select list. -/
def Column.render : Column → Render String
  | ⟨expr, label⟩ => do
    let sql ← expr.render
    return labelText sql label

/-- The entries of a select list. -/
def renderColumns : List Column → Render (List String)
  | [] => return []
  | column :: rest => do
    let text ← column.render
    let rest ← renderColumns rest
    return text :: rest

/-- A table. -/
def Table.render : Table → Render String
  | .named name => return escape name
  | .labelled name label => return escape name ++ " as " ++ escape label
  | .derived select label => do
    let sql ← subquery select.render
    return sql ++ " as " ++ escape label

/-- A joined table with its condition. -/
def Join.render : Join → Render String
  | ⟨kind, table, condition⟩ => do
    let table ← table.render
    let condition ← condition.render table
    return " " ++ kind.keyword ++ " Join " ++ table ++ " On " ++ condition

/-- Joined tables. -/
def renderJoins : List Join → Render (List String)
  | [] => return []
  | join :: rest => do
    let text ← join.render
    let rest ← renderJoins rest
    return text :: rest

/-- A predicate without its combinator. -/
def Predicate.render : Predicate → Render String
  | .compare _ column operator value => do
    let value ← value.renderValue
    match column with
    | some column => return escape column ++ " " ++ operator ++ " " ++ value
    | none => return operator ++ " " ++ value
  | .raw _ fragment => fragment.render
  | .group _ predicates => do
    let parts ← renderPredicates predicates
    return "(" ++ conditionText parts ++ ")"

/-- Predicates, each with its combinator. -/
def renderPredicates : List Predicate → Render (List (Combinator × String))
  | [] => return []
  | predicate :: rest => do
    let text ← predicate.render
    let rest ← renderPredicates rest
    return (predicate.combinator, text) :: rest

/-- A select. -/
def Select.render : Select → Render String
  | ⟨settings, table, columns, distinct, joins, predicates, groupBy, tail⟩ =>
    settings.render do
      let columns ← renderColumns columns
      let table ← table.render
      let joins ← renderJoins joins
      let parts ← renderPredicates predicates
      return "Select" ++ (if distinct then " Distinct" else "") ++ " " ++ selectListText columns
        ++ " From " ++ table ++ String.join joins ++ whereText parts ++ groupByText groupBy
        ++ tail.text

end

/-! ## The other statements -/

/-- The conditions of a statement on rows, if there are any. -/
def renderWhere (predicates : List Predicate) : Render String := do
  let parts ← renderPredicates predicates
  return whereText parts

/-- Rows of values, each in parentheses. -/
def renderRows : List (List Operand) → Render (List String)
  | [] => return []
  | row :: rest => do
    let values ← renderValues row
    let rest ← renderRows rest
    return ("(" ++ commas values ++ ")") :: rest

/-- A column that is set to an operand. -/
def renderAssignment (column : String) (value : Operand) : Render String := do
  let value ← value.renderValue
  return escape column ++ " = " ++ value

/-- Columns that are set to operands. -/
def renderAssignments : List (String × Operand) → Render (List String)
  | [] => return []
  | assignment :: rest => do
    let text ← renderAssignment assignment.1 assignment.2
    let rest ← renderAssignments rest
    return text :: rest

/-- What is done to a row that is there already. -/
def DuplicateUpdate.render : DuplicateUpdate → Render String
  | assign column value => renderAssignment column value
  | fromValues column => return escape column ++ " = " ++ callText "Values" [escape column]

/-- Everything that is done to rows that are there already. -/
def renderDuplicates : List DuplicateUpdate → Render (List String)
  | [] => return []
  | update :: rest => do
    let text ← update.render
    let rest ← renderDuplicates rest
    return text :: rest

/-- The clause on rows that are there already, if it says anything. -/
def duplicatesText : List String → String
  | [] => ""
  | parts => " On Duplicate Key Update " ++ commas parts

/-- An insert. It must have a row. -/
def Insert.render (s : Insert) : Render String :=
  s.settings.render do
    if s.rows.isEmpty then
      throw .insertWithoutRows
    let table ← s.table.render
    let rows ← renderRows s.rows
    let duplicates ← renderDuplicates s.duplicates
    return "Insert" ++ (if s.ignore then " Ignore" else "") ++ " Into " ++ table
      ++ insertColumnsText s.columns ++ " Values " ++ commas rows ++ duplicatesText duplicates

/-- An update. It must set a column. -/
def Update.render (s : Update) : Render String :=
  s.settings.render do
    if s.assignments.isEmpty then
      throw .updateWithoutAssignments
    let table ← s.table.render
    let assignments ← renderAssignments s.assignments
    let conditions ← renderWhere s.predicates
    return "Update " ++ table ++ " Set " ++ commas assignments ++ conditions ++ s.tail.text

/-- A delete. -/
def Delete.render (s : Delete) : Render String :=
  s.settings.render do
    let table ← s.table.render
    let conditions ← renderWhere s.predicates
    return "Delete From " ++ table ++ conditions ++ s.tail.text

/-- A statement. -/
def Statement.render : Statement → Render String
  | select s => s.render
  | insert s => s.render
  | update s => s.render
  | delete s => s.render

/-! ## Clauses

The parts of statements that can be rendered one at a time, one after the other over the same
collected values. -/

/-- A part of a statement. -/
inductive Clause where
  | raw (fragment : Fragment)
  | columns (columns : List Column)
  | table (table : Table)
  | joins (joins : List Join)
  | joinConditions (conditions : List OnCondition)
  /-- Conditions on rows with their keyword. -/
  | filter (predicates : List Predicate)
  /-- Conditions on rows without their keyword. -/
  | conditions (predicates : List Predicate)
  | groupBy (columns : List String)
  | orderBy (items : List OrderItem)
  | limit (limit : Option Limit)
  | insertColumns (columns : List String)
  | insertRows (rows : List (List Operand))
  | assignments (assignments : List (String × Operand))
  | duplicates (updates : List DuplicateUpdate)
  | subquery (select : Select)
  | statement (statement : Statement)

/-- The text of a clause. -/
def Clause.render : Clause → Render String
  | raw fragment => fragment.render
  | columns cs => selectListText <$> renderColumns cs
  | table t => t.render
  | joins js => String.join <$> renderJoins js
  | joinConditions cs => renderOn cs
  | filter ps => renderWhere ps
  | conditions ps => conditionText <$> renderPredicates ps
  | groupBy cs => return groupByText cs
  | orderBy items => return orderByText items
  | limit l => return limitText l
  | insertColumns cs => return insertColumnsText cs
  | insertRows rows => commas <$> renderRows rows
  | assignments pairs => commas <$> renderAssignments pairs
  | duplicates updates => duplicatesText <$> renderDuplicates updates
  | subquery select => SqlBuilder.subquery select.render
  | statement s => s.render

end SqlBuilder
