import SqlBuilder.Proofs.Assembly
import SqlBuilder.Proofs.Detached

set_option autoImplicit false

/-! # Steps with detached selects

The selects that are supplied to steps carry handles and debug flags too. A step that is given the
same selects without them contributes the same, without them. -/

namespace SqlBuilder

/-! ## Steps -/

mutual

/-- Criteria with the selects in them detached. -/
def Criteria.detached : Criteria → Criteria
  | .equal column value => .equal column value.detached
  | .compare column operator value => .compare column operator value.detached
  | .equalEach pairs => .equalEach (detachedPairs pairs)
  | .raw fragment => .raw fragment
  | .group steps => .group (detachedWhere steps)

/-- A step that adds conditions, given detached selects. -/
def WhereStep.detached : WhereStep → WhereStep
  | .matching combinator criteria => .matching combinator criteria.detached
  | .equal combinator column value => .equal combinator column value.detached
  | .compare combinator column operator value =>
    .compare combinator column operator value.detached
  | .equalEach combinator pairs => .equalEach combinator (detachedPairs pairs)
  | .raw combinator fragment => .raw combinator fragment
  | .group combinator steps => .group combinator (detachedWhere steps)
  | .isIn combinator column items => .isIn combinator column (items.map Operand.detached)
  | .isNotIn combinator column items => .isNotIn combinator column (items.map Operand.detached)
  | .inQuery combinator column select => .inQuery combinator column select.detached
  | .notInQuery combinator column select => .notInQuery combinator column select.detached
  | .isNull combinator column => .isNull combinator column
  | .isNotNull combinator column => .isNotNull combinator column
  | .between combinator column low high => .between combinator column low high
  | .notBetween combinator column low high => .notBetween combinator column low high
  | .hasRow combinator select => .hasRow combinator select.detached
  | .hasNoRow combinator select => .hasNoRow combinator select.detached

/-- Steps that add conditions, given detached selects. -/
def detachedWhere : List WhereStep → List WhereStep
  | [] => []
  | step :: rest => step.detached :: detachedWhere rest

end

/-- A step on a select, given detached selects. -/
def SelectStep.detached : SelectStep → SelectStep
  | .filter step => .filter step.detached
  | .column expr => .column expr.detached
  | .columnAs expr label => .columnAs expr.detached label
  | .columns exprs => .columns (exprs.map ColumnExpr.detached)
  | .columnsAs entries => .columnsAs (entries.map fun entry => (entry.1, entry.2.detached))
  | .countOf operand label => .countOf operand.detached label
  | .join kind table name operator key => .join kind table.detached name operator key
  | .joinEqual kind table name key => .joinEqual kind table.detached name key
  | .joinOn kind table steps => .joinOn kind table.detached steps
  | step => step

/-- A step on an insert, given detached selects. -/
def InsertStep.detached : InsertStep → InsertStep
  | .values row => .values (row.map Operand.detached)
  | .valuesEach rows => .valuesEach (rows.map fun row => row.map Operand.detached)
  | .named row => .named (detachedPairs row)
  | .namedEach rows => .namedEach (rows.map detachedPairs)
  | .onDuplicate column value => .onDuplicate column value.detached
  | .onDuplicateEach pairs => .onDuplicateEach (detachedPairs pairs)
  | step => step

/-- A step on an update, given detached selects. -/
def UpdateStep.detached : UpdateStep → UpdateStep
  | .filter step => .filter step.detached
  | .assign column value => .assign column value.detached
  | .assignEach pairs => .assignEach (detachedPairs pairs)
  | step => step

/-- A step on a delete, given detached selects. -/
def DeleteStep.detached : DeleteStep → DeleteStep
  | .filter step => .filter step.detached
  | step => step

theorem detachedWhere_eq_map (steps : List WhereStep) :
    detachedWhere steps = steps.map WhereStep.detached := by
  induction steps with
  | nil => rfl
  | cons step rest ih => rw [detachedWhere, ih, List.map_cons]

/-! ## What detached steps contribute -/

/-! ### Conditions on rows -/

theorem comparison_detached (combinator : Combinator) (column operator : String) (value : Operand) :
    comparison combinator column operator value.detached
      = (comparison combinator column operator value).map Predicate.detached := by
  unfold comparison
  by_cases allowed : isAllowedOperator operator = true
  · rw [if_pos allowed, if_pos allowed]
    rfl
  · rw [if_neg allowed, if_neg allowed]
    rfl

theorem listTest_detached (combinator : Combinator) (column operator : String)
    (items : List Operand) :
    listTest combinator column operator (items.map Operand.detached)
      = (listTest combinator column operator items).map Predicate.detached := by
  cases items with
  | nil => rfl
  | cons item rest =>
      simp only [listTest, List.map_cons, List.map_nil, Predicate.detached, Operand.detached,
        detachedOperands, detachedOperands_eq_map]

theorem equalities_detached (combinator : Combinator) (pairs : List (String × Operand)) :
    equalities combinator (detachedPairs pairs)
      = (equalities combinator pairs).map Predicate.detached := by
  simp only [equalities, detachedPairs, List.map_map]
  rfl

theorem parenthesized_detached (combinator : Combinator) (predicates : List Predicate) :
    parenthesized combinator (predicates.map Predicate.detached)
      = (parenthesized combinator predicates).map Predicate.detached := by
  cases predicates with
  | nil => rfl
  | cons predicate rest =>
      simp only [parenthesized, List.map_cons, List.map_nil, Predicate.detached,
        detachedPredicates, detachedPredicates_eq_map]

mutual

theorem Criteria.addedPredicates_detached (combinator : Combinator) :
    ∀ criteria : Criteria, criteria.detached.addedPredicates combinator
      = (criteria.addedPredicates combinator).map Predicate.detached
  | .equal column value => rfl
  | .compare column operator value => comparison_detached combinator column operator value
  | .equalEach pairs => equalities_detached combinator pairs
  | .raw fragment => rfl
  | .group steps => by
      simp only [Criteria.detached, Criteria.addedPredicates, wherePredicates_detached steps,
        parenthesized_detached]

theorem WhereStep.addedPredicates_detached : ∀ step : WhereStep,
    step.detached.addedPredicates = step.addedPredicates.map Predicate.detached
  | .matching combinator criteria => by
      simp only [WhereStep.detached, WhereStep.addedPredicates,
        Criteria.addedPredicates_detached combinator criteria]
  | .compare combinator column operator value =>
      comparison_detached combinator column operator value
  | .equalEach combinator pairs => equalities_detached combinator pairs
  | .group combinator steps => by
      simp only [WhereStep.detached, WhereStep.addedPredicates, wherePredicates_detached steps,
        parenthesized_detached]
  | .isIn combinator column items => listTest_detached combinator column "In" items
  | .isNotIn combinator column items => listTest_detached combinator column "Not In" items
  -- the other steps add one condition each, with their operand as it is
  | .equal combinator column value => rfl
  | .raw combinator fragment => rfl
  | .inQuery combinator column select => rfl
  | .notInQuery combinator column select => rfl
  | .isNull combinator column => rfl
  | .isNotNull combinator column => rfl
  | .between combinator column low high => rfl
  | .notBetween combinator column low high => rfl
  | .hasRow combinator select => rfl
  | .hasNoRow combinator select => rfl

theorem wherePredicates_detached : ∀ steps : List WhereStep,
    wherePredicates (detachedWhere steps) = (wherePredicates steps).map Predicate.detached
  | [] => rfl
  | step :: rest => by
      simp only [detachedWhere, wherePredicates, step.addedPredicates_detached,
        wherePredicates_detached rest, List.map_append]

end

mutual

theorem Criteria.operators_detached :
    ∀ criteria : Criteria, criteria.detached.operators = criteria.operators
  | .equal column value => rfl
  | .compare column operator value => rfl
  | .equalEach pairs => rfl
  | .raw fragment => rfl
  | .group steps => by
      simp only [Criteria.detached, Criteria.operators, whereOperators_detached steps]

theorem WhereStep.operators_detached :
    ∀ step : WhereStep, step.detached.operators = step.operators
  | .matching combinator criteria => by
      simp only [WhereStep.detached, WhereStep.operators, criteria.operators_detached]
  | .group combinator steps => by
      simp only [WhereStep.detached, WhereStep.operators, whereOperators_detached steps]
  | .equal combinator column value => rfl
  | .compare combinator column operator value => rfl
  | .equalEach combinator pairs => rfl
  | .raw combinator fragment => rfl
  | .isIn combinator column items => rfl
  | .isNotIn combinator column items => rfl
  | .inQuery combinator column select => rfl
  | .notInQuery combinator column select => rfl
  | .isNull combinator column => rfl
  | .isNotNull combinator column => rfl
  | .between combinator column low high => rfl
  | .notBetween combinator column low high => rfl
  | .hasRow combinator select => rfl
  | .hasNoRow combinator select => rfl

theorem whereOperators_detached :
    ∀ steps : List WhereStep, whereOperators (detachedWhere steps) = whereOperators steps
  | [] => rfl
  | step :: rest => by
      simp only [detachedWhere, whereOperators, step.operators_detached,
        whereOperators_detached rest]

end

/-! ### Selects -/

theorem Select.countArgument_detached (operand : Operand) :
    countArgument operand.detached = (countArgument operand).detached := by
  cases operand with
  | value v =>
      cases v with
      | text s =>
          simp only [Operand.detached, countArgument]
          split <;> rfl
      | _ => rfl
  | _ => rfl

theorem SelectStep.addedColumns_detached (step : SelectStep) :
    step.detached.addedColumns = step.addedColumns.map Column.detached := by
  cases step with
  | columns exprs =>
      simp only [detached, addedColumns, List.map_map]
      rfl
  | columnsAs entries =>
      simp only [detached, addedColumns, List.map_map]
      rfl
  | countOf operand label =>
      simp only [detached, addedColumns, countColumn, Select.countArgument_detached]
      rfl
  | _ => rfl

theorem keyJoin_detached (kind : JoinKind) (table : Table) (column operator : String)
    (key : JoinKey) :
    keyJoin kind table.detached column operator key
      = (keyJoin kind table column operator key).map Join.detached := by
  unfold keyJoin
  by_cases allowed : isAllowedOperator operator = true
  · rw [if_pos allowed, if_pos allowed]
    rfl
  · rw [if_neg allowed, if_neg allowed]
    rfl

theorem conditionJoin_detached (kind : JoinKind) (table : Table) (steps : List OnStep) :
    conditionJoin kind table.detached steps
      = (conditionJoin kind table steps).map Join.detached := by
  unfold conditionJoin
  cases firstRefused (steps.flatMap OnStep.operators) <;> rfl

theorem SelectStep.addedJoins_detached (step : SelectStep) :
    step.detached.addedJoins = step.addedJoins.map Join.detached := by
  cases step with
  | join kind table name operator key => exact keyJoin_detached kind table name operator key
  | joinOn kind table steps => exact conditionJoin_detached kind table steps
  | _ => rfl

theorem SelectStep.operators_detached (step : SelectStep) :
    step.detached.operators = step.operators := by
  cases step with
  | filter step => exact step.operators_detached
  | _ => rfl

theorem UpdateStep.operators_detached (step : UpdateStep) :
    step.detached.operators = step.operators := by
  cases step with
  | filter step => exact step.operators_detached
  | _ => rfl

theorem DeleteStep.operators_detached (step : DeleteStep) :
    step.detached.operators = step.operators := by
  cases step with
  | filter step => exact step.operators_detached
  | _ => rfl

/-! ### Inserts -/

theorem InsertStep.givenRows_detached (step : InsertStep) :
    step.detached.givenRows = step.givenRows.map fun row => row.map Operand.detached := by
  have named (row : List (String × Operand)) :
      (detachedPairs row).map (·.2) = (row.map (·.2)).map Operand.detached := by
    simp only [detachedPairs, List.map_map]
    rfl
  cases step with
  | named row => simp only [detached, givenRows, named, List.map_cons, List.map_nil]
  | namedEach rows => simp only [detached, givenRows, List.map_map, Function.comp_def, named]
  | _ => rfl

theorem filledRows_detached (rows : List (List Operand)) :
    filledRows (rows.map fun row => row.map Operand.detached)
      = (filledRows rows).map fun row => row.map Operand.detached := by
  simp only [filledRows, List.filter_map, Function.comp_def, List.isEmpty_map]

theorem keysUnlessGiven_detached (names : List String) (row : List (String × Operand)) :
    keysUnlessGiven names (detachedPairs row) = keysUnlessGiven names row := by
  simp only [keysUnlessGiven, detachedPairs, List.map_map, Function.comp_def]

theorem InsertStep.columnList_detached (names : List String) (step : InsertStep) :
    step.detached.columnList names = step.columnList names := by
  cases step with
  | named row => exact keysUnlessGiven_detached names row
  | namedEach rows => simp only [detached, columnList, List.foldl_map, keysUnlessGiven_detached]
  | _ => rfl

theorem InsertStep.addedDuplicates_detached (step : InsertStep) :
    step.detached.addedDuplicates = step.addedDuplicates.map DuplicateUpdate.detached := by
  cases step with
  | onDuplicateEach pairs =>
      simp only [detached, addedDuplicates, detachedPairs, List.map_map]
      rfl
  | onDuplicateValues names =>
      simp only [detached, addedDuplicates, List.map_map]
      rfl
  | _ => rfl

/-! ### Updates -/

theorem UpdateStep.givenPairs_detached (step : UpdateStep) :
    step.detached.givenPairs = detachedPairs step.givenPairs := by
  cases step <;> rfl

theorem setAssignment_detached (column : String) (value : Operand)
    (assignments : List (String × Operand)) :
    setAssignment column value.detached (detachedPairs assignments)
      = detachedPairs (setAssignment column value assignments) := by
  induction assignments with
  | nil => rfl
  | cons assignment rest ih =>
      rw [detachedPairs] at ih ⊢
      rw [List.map_cons, setAssignment, setAssignment]
      by_cases same : assignment.1 = column
      · rw [if_pos same, if_pos same]
        rfl
      · rw [if_neg same, if_neg same, ih]
        rfl

theorem setAssignments_detached (pairs assignments : List (String × Operand)) :
    setAssignments (detachedPairs pairs) (detachedPairs assignments)
      = detachedPairs (setAssignments pairs assignments) := by
  induction pairs generalizing assignments with
  | nil => rfl
  | cons pair rest ih =>
      have first := setAssignment_detached pair.1 pair.2 assignments
      have rest := ih (setAssignment pair.1 pair.2 assignments)
      rw [← first] at rest
      exact rest

end SqlBuilder
