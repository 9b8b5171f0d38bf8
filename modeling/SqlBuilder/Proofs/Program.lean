import SqlBuilder.Proofs.Ingredients
import SqlBuilder.Steps.Insert
import SqlBuilder.Steps.Select
import SqlBuilder.Steps.Update

set_option autoImplicit false

/-! # Programs

A statement is put together by a *program*: a table and steps that start from it. The selects that a
program supplies to its steps are put together in the same way, so a program is read to any depth. -/

namespace SqlBuilder

/-- A table, and steps that build a statement of one of the four kinds on it. -/
inductive Program where
  | select (table : Table) (steps : List SelectStep)
  | insert (table : Table) (steps : List InsertStep)
  | update (table : Table) (steps : List UpdateStep)
  | delete (table : Table) (steps : List DeleteStep)

/-- The statement that a program builds. -/
def Program.statement : Program → Statement
  | select table steps => .select (.ofSteps table steps)
  | insert table steps => .insert (.ofSteps table steps)
  | update table steps => .update (.ofSteps table steps)
  | delete table steps => .delete (.ofSteps table steps)

/-- The conditions of a statement on rows. -/
def Statement.predicates : Statement → List Predicate
  | select s => s.predicates
  | insert _ => []
  | update s => s.predicates
  | delete s => s.predicates

/-! ## What callers supply

The fragments, names of functions and selects in the arguments of steps. Operators are left out:
whether they get into a statement is not up to the caller. -/

mutual

/-- What a condition in one of several shapes supplies. -/
def Criteria.supplied : Criteria → List Ingredient
  | .equal _ value => value.ingredients
  | .compare _ _ value => value.ingredients
  | .equalEach pairs => pairIngredients pairs
  | .raw fragment => [.fragment fragment]
  | .group steps => whereSupplied steps

/-- What a step that adds conditions supplies. -/
def WhereStep.supplied : WhereStep → List Ingredient
  | .matching _ criteria => criteria.supplied
  | .equal _ _ value => value.ingredients
  | .compare _ _ _ value => value.ingredients
  | .equalEach _ pairs => pairIngredients pairs
  | .raw _ fragment => [.fragment fragment]
  | .group _ steps => whereSupplied steps
  | .isIn _ _ items => operandIngredients items
  | .isNotIn _ _ items => operandIngredients items
  | .inQuery _ _ select => [.query select]
  | .notInQuery _ _ select => [.query select]
  | .isNull _ _ => []
  | .isNotNull _ _ => []
  | .between _ _ _ _ => []
  | .notBetween _ _ _ _ => []
  | .hasRow _ select => [.query select]
  | .hasNoRow _ select => [.query select]

/-- What steps that add conditions supply. -/
def whereSupplied : List WhereStep → List Ingredient
  | [] => []
  | step :: rest => step.supplied ++ whereSupplied rest

end

/-- What a step of the condition of a join supplies. -/
def OnStep.supplied : OnStep → List Ingredient
  | .equal _ _ key => key.ingredients
  | .compare _ _ _ key => key.ingredients

/-- What a step on the settings supplies. -/
def SettingStep.supplied : SettingStep → List Ingredient
  | .debug _ => []
  | .override fragment => [.fragment fragment]
  | .attach _ => []

/-- What a step on a select supplies. -/
def SelectStep.supplied : SelectStep → List Ingredient
  | .filter step => step.supplied
  | .tail _ => []
  | .setting step => step.supplied
  | .column expr => expr.ingredients
  | .columnAs expr _ => expr.ingredients
  | .columns exprs => exprs.flatMap ColumnExpr.ingredients
  | .columnsAs entries => entries.flatMap fun entry => entry.2.ingredients
  | .distinct _ => []
  | .count => []
  | .countOf operand _ => operand.ingredients
  | .groupBy _ => []
  | .groupByEach _ => []
  | .join _ table _ _ key => table.ingredients ++ key.ingredients
  | .joinEqual _ table _ key => table.ingredients ++ key.ingredients
  | .joinOn _ table steps => table.ingredients ++ steps.flatMap OnStep.supplied

/-- What a step on an insert supplies. -/
def InsertStep.supplied : InsertStep → List Ingredient
  | .setting step => step.supplied
  | .columns _ => []
  | .values row => operandIngredients row
  | .valuesEach rows => rows.flatMap operandIngredients
  | .named row => pairIngredients row
  | .namedEach rows => rows.flatMap pairIngredients
  | .ignore _ => []
  | .onDuplicate _ value => value.ingredients
  | .onDuplicateEach pairs => pairIngredients pairs
  | .onDuplicateValues _ => []

/-- What a step on an update supplies. -/
def UpdateStep.supplied : UpdateStep → List Ingredient
  | .filter step => step.supplied
  | .tail _ => []
  | .setting step => step.supplied
  | .assign _ value => value.ingredients
  | .assignEach pairs => pairIngredients pairs

/-- What a step on a delete supplies. -/
def DeleteStep.supplied : DeleteStep → List Ingredient
  | .filter step => step.supplied
  | .tail _ => []
  | .setting step => step.supplied

/-- What a program supplies. -/
def Program.supplied : Program → List Ingredient
  | select table steps => table.ingredients ++ steps.flatMap SelectStep.supplied
  | insert table steps => table.ingredients ++ steps.flatMap InsertStep.supplied
  | update table steps => table.ingredients ++ steps.flatMap UpdateStep.supplied
  | delete table steps => table.ingredients ++ steps.flatMap DeleteStep.supplied

/-- A supplied ingredient is a fragment or the name of a function with a property, or a select that
is built from such ingredients by a program of its own. -/
inductive Ingredient.Supplied (P : Ingredient → Prop) : Ingredient → Prop
  | fragment {fragment : Fragment} (h : P (.fragment fragment)) : Supplied P (.fragment fragment)
  | function {name : String} (h : P (.function name)) : Supplied P (.function name)
  | query (table : Table) (steps : List SelectStep)
      (h : ∀ i ∈ (Program.select table steps).supplied, Supplied P i) :
      Supplied P (.query (.ofSteps table steps))

/-- A property holds of all fragments and names of functions that a program supplies, at any depth,
and all selects that it supplies are built by programs. -/
def Program.Supplies (P : Ingredient → Prop) (program : Program) : Prop :=
  ∀ i ∈ program.supplied, i.Supplied P

/-- A program whose selects, at any depth, are built by programs. There is no condition on anything
else that it supplies. -/
def Program.Complete (program : Program) : Prop :=
  program.Supplies fun _ => True

end SqlBuilder
