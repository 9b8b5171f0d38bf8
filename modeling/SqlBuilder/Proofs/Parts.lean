import SqlBuilder.Proofs.Ingredients
import SqlBuilder.Query

set_option autoImplicit false

/-! # The parts that a statement tries

Rendering tries the parts of a statement one after the other and stops at the first one that fails.
The parts are listed in the order of the text without rendering anything, and each has its own way
to fail: a fragment if it does not expand, a subquery if it does not build by itself. -/

namespace SqlBuilder

/-! ## Parts and their failures -/

/-- A part of a statement that is tried when the statement is rendered. -/
inductive StatementPart where
  /-- A comparison with a refused operator. -/
  | refusal (operator : String)
  | ingredient (i : Ingredient)
  /-- What stands in the place of a name but is none. -/
  | misplaced (operand : Operand)
  /-- The condition of a join to a table, without comparisons. -/
  | unmatched (table : Table)
  /-- The rows of an insert that has none. -/
  | noRows
  /-- The assignments of an update that has none. -/
  | noAssignments

/-- The error of an outcome, if there is one. -/
def failureOf {α : Type} : Except QueryError α → Option QueryError
  | .ok _ => none
  | .error e => some e

theorem failureOf_eq_some {α : Type} (x : Except QueryError α) (e : QueryError) :
    failureOf x = some e ↔ x = .error e := by
  cases x <;> simp [failureOf]

theorem failureOf_eq_none {α : Type} (x : Except QueryError α) :
    failureOf x = none ↔ ∃ a, x = .ok a := by
  cases x <;> simp [failureOf]

theorem failureOf_map {α β : Type} (f : α → β) (x : Except QueryError α) :
    failureOf (x.map f) = failureOf x := by
  cases x <;> rfl

/-- A statement builds if and only if it renders. -/
theorem Statement.failureOf_build (s : Statement) :
    failureOf s.build = failureOf (s.render.run {}).1 := by
  unfold build outcome
  rcases s.render.run {} with ⟨e | sql, after⟩ <;> rfl

/-- How an ingredient fails: names of functions and operators are written as they are. -/
def Ingredient.failure : Ingredient → Option QueryError
  | .fragment sql => failureOf sql.expand
  | .function _ => none
  | .operator _ => none
  | .query select => failureOf (Statement.select select).build

/-- The text of a table that renders. -/
def Table.text (table : Table) : String :=
  match (table.render.run {}).1 with
  | .ok sql => sql
  | .error _ => ""

/-- How a part fails, if it does. -/
def StatementPart.failure : StatementPart → Option QueryError
  | .refusal operator => some (.operatorNotAllowed operator)
  | .ingredient i => i.failure
  | .misplaced operand => some (.notAName operand.describe)
  | .unmatched table => some (.joinWithoutConditions table.text)
  | .noRows => some .insertWithoutRows
  | .noAssignments => some .updateWithoutAssignments

/-! ## Parts in the order of the text -/

mutual

/-- The parts of an operand where a name is expected. -/
def Operand.nameParts : Operand → List StatementPart
  | .value (.text _) => []
  | .value v => [.misplaced (.value v)]
  | .list items => [.misplaced (.list items)]
  | .raw fragment => [.ingredient (.fragment fragment)]
  | .call call => call.nameParts
  | .query select => [.ingredient (.query select)]

/-- The parts of a call whose arguments are names. -/
def Call.nameParts : Call → List StatementPart
  | ⟨_, args⟩ => nameParts args

/-- The parts of operands where names are expected. -/
def nameParts : List Operand → List StatementPart
  | [] => []
  | operand :: rest => operand.nameParts ++ nameParts rest

end

/-- The parts of what is selected. -/
def ColumnExpr.parts : ColumnExpr → List StatementPart
  | .name _ => []
  | .raw fragment => [.ingredient (.fragment fragment)]
  | .call c => c.nameParts
  | .query select => [.ingredient (.query select)]

/-- The parts of an entry of a select list. -/
def Column.parts : Column → List StatementPart
  | ⟨expr, _⟩ => expr.parts

/-- The parts of the condition of a join to a table. -/
def JoinCondition.parts (table : Table) : JoinCondition → List StatementPart
  | .several [] => [.unmatched table]
  | condition => condition.ingredients.map .ingredient

/-- The parts of a join. -/
def Join.parts : Join → List StatementPart
  | ⟨_, table, condition⟩ => table.ingredients.map .ingredient ++ condition.parts table

/-- A refused operator stands for the whole statement, and otherwise an override for its clauses. -/
def Settings.parts (settings : Settings) (clauses : List StatementPart) : List StatementPart :=
  match settings.rejected with
  | some operator => [.refusal operator]
  | none =>
    match settings.override with
    | some fragment => [.ingredient (.fragment fragment)]
    | none => clauses

/-- The parts of the clauses of a statement. If an insert has no rows or an update no assignments,
nothing else is tried. -/
def Statement.clauseParts : Statement → List StatementPart
  | .select s =>
    s.columns.flatMap Column.parts
      ++ (s.table.ingredients.map .ingredient
      ++ (s.joins.flatMap Join.parts
      ++ (predicateIngredients s.predicates).map .ingredient))
  | .insert s =>
    if s.rows.isEmpty then [.noRows] else
      s.table.ingredients.map .ingredient
        ++ ((s.rows.flatMap operandIngredients).map .ingredient
        ++ (s.duplicates.flatMap DuplicateUpdate.ingredients).map .ingredient)
  | .update s =>
    if s.assignments.isEmpty then [.noAssignments] else
      s.table.ingredients.map .ingredient
        ++ ((pairIngredients s.assignments).map .ingredient
        ++ (predicateIngredients s.predicates).map .ingredient)
  | .delete s =>
    s.table.ingredients.map .ingredient ++ (predicateIngredients s.predicates).map .ingredient

/-- The parts of a statement in the order in which they are tried. -/
def Statement.parts (s : Statement) : List StatementPart :=
  s.settings.parts s.clauseParts

end SqlBuilder
