import SqlBuilder.Render
import SqlBuilder.Value

set_option autoImplicit false

/-! # Statements with their values written out

A statement can be shown without placeholders: whoever walks through it and meets a value writes the
literal of that value on the spot. Nothing is collected, and no text is searched for placeholders.

The walk is defined for all statements, those that have no rendering included. Where they have none
it writes what is there: the literals of values that cannot stand for a name, and a join without
conditions. -/

namespace SqlBuilder

/-! ## Fragments -/

/-- The rest of a fragment: its placeholders are replaced by the literals of their own parameters, its
name placeholders by the quoted names. -/
def Fragment.displayFrom : List Char → List Value → List Char
  | [], _ => []
  | '?' :: '?' :: rest, params =>
    match params with
    | .text name :: params => (escape name).toList ++ displayFrom rest params
    | params => '?' :: '?' :: displayFrom rest params
  | '?' :: rest, params =>
    match params with
    | [] => '?' :: displayFrom rest []
    | param :: params => param.debugLiteral.toList ++ displayFrom rest params
  | c :: rest, params => c :: displayFrom rest params

/-- A fragment with its parameters written out. -/
def Fragment.display (fragment : Fragment) : String :=
  String.ofList (displayFrom fragment.sql.toList fragment.params)

/-- A statement with these settings, given how its clauses are shown: its override, or its clauses. -/
def Settings.display (settings : Settings) (clauses : String) : String :=
  match settings.override with
  | some fragment => fragment.display
  | none => clauses

/-! ## Joins -/

/-- The right side of a comparison between columns. -/
def JoinKey.display : JoinKey → String
  | column name => escape name
  | raw fragment => fragment.display

/-- A comparison between columns. -/
def displayKeys (column operator : String) (key : JoinKey) : String :=
  escape column ++ " " ++ operator ++ " " ++ key.display

/-- A comparison in the condition of a join, with its combinator. -/
def OnCondition.display (condition : OnCondition) : Combinator × String :=
  (condition.combinator, displayKeys condition.column condition.operator condition.key)

/-- The condition of a join. -/
def JoinCondition.display : JoinCondition → String
  | keys column operator key => displayKeys column operator key
  | several conditions => conditionText (conditions.map OnCondition.display)

/-! ## Selects and what they hold -/

mutual

/-- An operand where a name is expected. -/
def Operand.displayName : Operand → String
  | .value (.text name) => escape name
  | .value v => v.debugLiteral
  | .list items => "(" ++ commas (displayNames items) ++ ")"
  | .raw fragment => fragment.display
  | .call call => call.displayName
  | .query select => "(" ++ select.display ++ ")"

/-- A call whose arguments are names. -/
def Call.displayName : Call → String
  | ⟨name, args⟩ => callText name (displayNames args)

/-- Operands where names are expected. -/
def displayNames : List Operand → List String
  | [] => []
  | operand :: rest => operand.displayName :: displayNames rest

/-- An operand where a value is expected. -/
def Operand.displayValue : Operand → String
  | .value v => v.debugLiteral
  | .list items => "(" ++ commas (displayValues items) ++ ")"
  | .raw fragment => fragment.display
  | .call call => call.displayValue
  | .query select => "(" ++ select.display ++ ")"

/-- A call whose arguments are values. -/
def Call.displayValue : Call → String
  | ⟨name, args⟩ => callText name (displayValues args)

/-- Operands where values are expected. -/
def displayValues : List Operand → List String
  | [] => []
  | operand :: rest => operand.displayValue :: displayValues rest

/-- What is selected. -/
def ColumnExpr.display : ColumnExpr → String
  | .name name => escape name
  | .raw fragment => fragment.display
  | .call call => call.displayName
  | .query select => "(" ++ select.display ++ ")"

/-- An entry of a select list. -/
def Column.display : Column → String
  | ⟨expr, label⟩ => labelText expr.display label

/-- The entries of a select list. -/
def displayColumns : List Column → List String
  | [] => []
  | column :: rest => column.display :: displayColumns rest

/-- A table. -/
def Table.display : Table → String
  | .named name => escape name
  | .labelled name label => escape name ++ " as " ++ escape label
  | .derived select label => "(" ++ select.display ++ ")" ++ " as " ++ escape label

/-- A joined table with its condition. -/
def Join.display : Join → String
  | ⟨kind, table, condition⟩ =>
    " " ++ kind.keyword ++ " Join " ++ table.display ++ " On " ++ condition.display

/-- Joined tables. -/
def displayJoins : List Join → List String
  | [] => []
  | join :: rest => join.display :: displayJoins rest

/-- A predicate without its combinator. -/
def Predicate.display : Predicate → String
  | .compare _ (some column) operator value =>
    escape column ++ " " ++ operator ++ " " ++ value.displayValue
  | .compare _ none operator value => operator ++ " " ++ value.displayValue
  | .raw _ fragment => fragment.display
  | .group _ predicates => "(" ++ conditionText (displayPredicates predicates) ++ ")"

/-- Predicates, each with its combinator. -/
def displayPredicates : List Predicate → List (Combinator × String)
  | [] => []
  | predicate :: rest => (predicate.combinator, predicate.display) :: displayPredicates rest

/-- A select. -/
def Select.display : Select → String
  | ⟨settings, table, columns, distinct, joins, predicates, groupBy, tail⟩ =>
    settings.display <|
      "Select" ++ (if distinct then " Distinct" else "") ++ " "
        ++ selectListText (displayColumns columns) ++ " From " ++ table.display
        ++ String.join (displayJoins joins) ++ whereText (displayPredicates predicates)
        ++ groupByText groupBy ++ tail.text

end

/-! ## The other statements -/

/-- A column that is set to an operand. -/
def displayAssignment (column : String) (value : Operand) : String :=
  escape column ++ " = " ++ value.displayValue

/-- What is done to a row that is there already. -/
def DuplicateUpdate.display : DuplicateUpdate → String
  | assign column value => displayAssignment column value
  | fromValues column => escape column ++ " = Values(" ++ escape column ++ ")"

/-- An insert. -/
def Insert.display (s : Insert) : String :=
  s.settings.display <|
    "Insert" ++ (if s.ignore then " Ignore" else "") ++ " Into " ++ s.table.display
      ++ insertColumnsText s.columns ++ " Values "
      ++ commas (s.rows.map fun row => "(" ++ commas (displayValues row) ++ ")")
      ++ duplicatesText (s.duplicates.map DuplicateUpdate.display)

/-- An update. -/
def Update.display (s : Update) : String :=
  s.settings.display <|
    "Update " ++ s.table.display ++ " Set "
      ++ commas (s.assignments.map fun assignment => displayAssignment assignment.1 assignment.2)
      ++ whereText (displayPredicates s.predicates) ++ s.tail.text

/-- A delete. -/
def Delete.display (s : Delete) : String :=
  s.settings.display <|
    "Delete From " ++ s.table.display ++ whereText (displayPredicates s.predicates) ++ s.tail.text

/-- A statement. -/
def Statement.display : Statement → String
  | select s => s.display
  | insert s => s.display
  | update s => s.display
  | delete s => s.display

end SqlBuilder
