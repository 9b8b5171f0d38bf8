import SqlBuilder.Statement

set_option autoImplicit false

/-! # What statements are made of

Names and values never reach the SQL text as they are: names are quoted and values are bound. What
does reach it are fragments, names of functions and operators, at any depth of a statement. They are
its *ingredients*, together with the selects that stand inside it, which have ingredients of their
own. A property holds *throughout* a statement if it holds of every ingredient at every depth. -/

namespace SqlBuilder

/-- A part of a statement that is neither a name nor a value. -/
inductive Ingredient where
  | fragment (fragment : Fragment)
  | function (name : String)
  | operator (operator : String)
  | query (select : Select)

/-! ## Ingredients, not looking into selects -/

mutual

/-- The ingredients of an operand. -/
def Operand.ingredients : Operand → List Ingredient
  | .value _ => []
  | .list items => operandIngredients items
  | .raw fragment => [.fragment fragment]
  | .call call => call.ingredients
  | .query select => [.query select]

/-- The ingredients of a call. -/
def Call.ingredients : Call → List Ingredient
  | ⟨name, args⟩ => .function name :: operandIngredients args

/-- The ingredients of several operands. -/
def operandIngredients : List Operand → List Ingredient
  | [] => []
  | operand :: rest => operand.ingredients ++ operandIngredients rest

end

/-- The ingredients of what is selected. -/
def ColumnExpr.ingredients : ColumnExpr → List Ingredient
  | .name _ => []
  | .raw fragment => [.fragment fragment]
  | .call c => c.ingredients
  | .query select => [.query select]

/-- The ingredients of an entry of a select list. -/
def Column.ingredients : Column → List Ingredient
  | ⟨expr, _⟩ => expr.ingredients

/-- The ingredients of a table. -/
def Table.ingredients : Table → List Ingredient
  | .named _ => []
  | .labelled _ _ => []
  | .derived select _ => [.query select]

/-- The ingredients of the right side of a comparison between columns. -/
def JoinKey.ingredients : JoinKey → List Ingredient
  | .column _ => []
  | .raw fragment => [.fragment fragment]

/-- The ingredients of a comparison in the condition of a join. -/
def OnCondition.ingredients (condition : OnCondition) : List Ingredient :=
  .operator condition.operator :: condition.key.ingredients

/-- The ingredients of the condition of a join. -/
def JoinCondition.ingredients : JoinCondition → List Ingredient
  | .keys _ operator key => .operator operator :: key.ingredients
  | .several conditions => conditions.flatMap OnCondition.ingredients

/-- The ingredients of a joined table. -/
def Join.ingredients : Join → List Ingredient
  | ⟨_, table, condition⟩ => table.ingredients ++ condition.ingredients

mutual

/-- The ingredients of a condition on rows. -/
def Predicate.ingredients : Predicate → List Ingredient
  | .compare _ _ operator value => .operator operator :: value.ingredients
  | .raw _ fragment => [.fragment fragment]
  | .group _ predicates => predicateIngredients predicates

/-- The ingredients of several conditions on rows. -/
def predicateIngredients : List Predicate → List Ingredient
  | [] => []
  | predicate :: rest => predicate.ingredients ++ predicateIngredients rest

end

/-- The ingredients of what a statement carries beside its clauses. -/
def Settings.ingredients (settings : Settings) : List Ingredient :=
  settings.override.toList.map .fragment

/-- The ingredients of a select. -/
def Select.ingredients (s : Select) : List Ingredient :=
  s.settings.ingredients ++ s.columns.flatMap Column.ingredients ++ s.table.ingredients
    ++ s.joins.flatMap Join.ingredients ++ predicateIngredients s.predicates

/-- The ingredients of operands that are paired with columns. -/
def pairIngredients (pairs : List (String × Operand)) : List Ingredient :=
  pairs.flatMap fun pair => pair.2.ingredients

/-- The ingredients of what is done to a row that is there already. -/
def DuplicateUpdate.ingredients : DuplicateUpdate → List Ingredient
  | .assign _ value => value.ingredients
  | .fromValues _ => []

/-- The ingredients of an insert. -/
def Insert.ingredients (s : Insert) : List Ingredient :=
  s.settings.ingredients ++ s.table.ingredients ++ s.rows.flatMap operandIngredients
    ++ s.duplicates.flatMap DuplicateUpdate.ingredients

/-- The ingredients of an update. -/
def Update.ingredients (s : Update) : List Ingredient :=
  s.settings.ingredients ++ s.table.ingredients ++ pairIngredients s.assignments
    ++ predicateIngredients s.predicates

/-- The ingredients of a delete. -/
def Delete.ingredients (s : Delete) : List Ingredient :=
  s.settings.ingredients ++ s.table.ingredients ++ predicateIngredients s.predicates

/-- The ingredients of a statement. -/
def Statement.ingredients : Statement → List Ingredient
  | .select s => s.ingredients
  | .insert s => s.ingredients
  | .update s => s.ingredients
  | .delete s => s.ingredients

/-! ## Ingredients at any depth -/

/-- A property of fragments, names of functions and operators holds throughout an ingredient: of the
ingredient itself or, if it is a select, throughout each of its own ingredients. -/
inductive Ingredient.Throughout (P : Ingredient → Prop) : Ingredient → Prop
  | fragment {fragment : Fragment} (h : P (.fragment fragment)) : Throughout P (.fragment fragment)
  | function {name : String} (h : P (.function name)) : Throughout P (.function name)
  | operator {operator : String} (h : P (.operator operator)) : Throughout P (.operator operator)
  | query {select : Select} (h : ∀ i ∈ select.ingredients, Throughout P i) :
      Throughout P (.query select)

/-- A property of fragments, names of functions and operators holds throughout a statement. -/
def Statement.Throughout (P : Ingredient → Prop) (s : Statement) : Prop :=
  ∀ i ∈ s.ingredients, i.Throughout P

/-- A weaker property holds throughout an ingredient too. -/
theorem Ingredient.Throughout.mono {P Q : Ingredient → Prop} (weaken : ∀ i, P i → Q i)
    {i : Ingredient} (h : i.Throughout P) : i.Throughout Q := by
  induction h with
  | fragment h => exact .fragment (weaken _ h)
  | function h => exact .function (weaken _ h)
  | operator h => exact .operator (weaken _ h)
  | query h ih => exact .query ih

/-- Two properties that hold throughout an ingredient hold together. -/
theorem Ingredient.Throughout.and {P Q : Ingredient → Prop} {i : Ingredient}
    (hp : i.Throughout P) (hq : i.Throughout Q) : i.Throughout fun i => P i ∧ Q i := by
  induction hp with
  | fragment h =>
      cases hq with
      | fragment h' => exact .fragment ⟨h, h'⟩
  | function h =>
      cases hq with
      | function h' => exact .function ⟨h, h'⟩
  | operator h =>
      cases hq with
      | operator h' => exact .operator ⟨h, h'⟩
  | query h ih =>
      cases hq with
      | query h' => exact .query fun i hi => ih i hi (h' i hi)

/-- Two properties that hold throughout a statement hold together. -/
theorem Statement.Throughout.and {P Q : Ingredient → Prop} {s : Statement}
    (hp : s.Throughout P) (hq : s.Throughout Q) : s.Throughout fun i => P i ∧ Q i :=
  fun i hi => (hp i hi).and (hq i hi)

theorem operandIngredients_eq_flatMap (operands : List Operand) :
    operandIngredients operands = operands.flatMap Operand.ingredients := by
  induction operands with
  | nil => rfl
  | cons operand rest ih => simp only [operandIngredients, List.flatMap_cons, ih]

theorem predicateIngredients_append (first second : List Predicate) :
    predicateIngredients (first ++ second)
      = predicateIngredients first ++ predicateIngredients second := by
  induction first with
  | nil => rfl
  | cons predicate rest ih =>
      simp only [List.cons_append, predicateIngredients, ih, List.append_assoc]

end SqlBuilder
