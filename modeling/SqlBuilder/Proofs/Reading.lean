import SqlBuilder.Proofs.Assignments
import SqlBuilder.Proofs.Buildable
import SqlBuilder.Proofs.Noninterference
import SqlBuilder.Proofs.Precedence
import SqlBuilder.Proofs.Reachable
import SqlBuilder.Proofs.Sources

set_option autoImplicit false

/-! # Bound values read off a program

The sources of bound values in the steps of a program, in the order in which the clauses of its
statement stand in the text; within a clause the steps keep their order. `Program.params_read` says
that a query binds the values of these sources, each once and in this order. -/

namespace SqlBuilder

/-! ## Sources in the order of the steps -/

mutual

/-- The sources in a condition, depth-first. -/
def Criteria.sources : Criteria → List Source
  | .equal _ value => value.valueSources
  | .compare _ _ value => value.valueSources
  | .equalEach pairs => pairSources pairs
  | .raw fragment => fragment.sources
  | .group steps => whereSources steps

/-- The sources in a step that adds conditions: a list gives its items, a range its two ends, and a
test for null nothing. -/
def WhereStep.sources : WhereStep → List Source
  | .matching _ criteria => criteria.sources
  | .equal _ _ value => value.valueSources
  | .compare _ _ _ value => value.valueSources
  | .equalEach _ pairs => pairSources pairs
  | .raw _ fragment => fragment.sources
  | .group _ steps => whereSources steps
  | .isIn _ _ items => valueSources items
  | .isNotIn _ _ items => valueSources items
  | .inQuery _ _ select => [.query select]
  | .notInQuery _ _ select => [.query select]
  | .isNull _ _ => []
  | .isNotNull _ _ => []
  | .between _ _ low high => [.value low, .value high]
  | .notBetween _ _ low high => [.value low, .value high]
  | .hasRow _ select => [.query select]
  | .hasNoRow _ select => [.query select]

/-- The sources in steps that add conditions. -/
def whereSources : List WhereStep → List Source
  | [] => []
  | step :: rest => step.sources ++ whereSources rest

end

/-- The sources in a step of the condition of a join. -/
def OnStep.sources : OnStep → List Source
  | .equal _ _ key => key.sources
  | .compare _ _ _ key => key.sources

/-- The sources in the select list. -/
def SelectStep.columnSources : SelectStep → List Source
  | .column expr => expr.sources
  | .columnAs expr _ => expr.sources
  | .columns exprs => exprs.flatMap ColumnExpr.sources
  | .columnsAs entries => entries.flatMap fun entry => entry.2.sources
  | .countOf operand _ => operand.nameSources
  | _ => []

/-- The sources in joins. -/
def SelectStep.joinSources : SelectStep → List Source
  | .join _ table _ _ key => table.sources ++ key.sources
  | .joinEqual _ table _ key => table.sources ++ key.sources
  | .joinOn _ table steps => table.sources ++ steps.flatMap OnStep.sources
  | _ => []

/-- The sources in rows. -/
def InsertStep.rowSources : InsertStep → List Source
  | .values row => valueSources row
  | .valuesEach rows => rows.flatMap valueSources
  | .named row => pairSources row
  | .namedEach rows => rows.flatMap pairSources
  | _ => []

/-- The sources in what is done to rows that are there already. -/
def InsertStep.duplicateSources : InsertStep → List Source
  | .onDuplicate _ value => value.valueSources
  | .onDuplicateEach pairs => pairSources pairs
  | _ => []

namespace Program

/-- The sources in the clauses of a program, in the order of the clauses. Of several assignments to
a column the last one counts, in the place of the first. -/
def clauseSources : Program → List Source
  | select table steps =>
    steps.flatMap SelectStep.columnSources ++ (table.sources
      ++ (steps.flatMap SelectStep.joinSources
      ++ whereSources (steps.flatMap SelectStep.whereSteps)))
  | insert table steps =>
    table.sources ++ (steps.flatMap InsertStep.rowSources
      ++ steps.flatMap InsertStep.duplicateSources)
  | update table steps =>
    table.sources ++ (pairSources (lastAssignments (steps.flatMap UpdateStep.givenPairs))
      ++ whereSources (steps.flatMap UpdateStep.whereSteps))
  | delete table steps => table.sources ++ whereSources (steps.flatMap DeleteStep.whereSteps)

/-- The sources of a program. The last override takes the place of its clauses. -/
def sources (program : Program) : List Source :=
  match program.overrides.getLast? with
  | some fragment => fragment.sources
  | none => program.clauseSources

end Program

/-- Sources, and the values that are read from them one after the other. From a select those are
read that its own program has. -/
inductive Reads : List Source → List Value → Prop
  | nil : Reads [] []
  | value {sources : List Source} {values : List Value} (v : Value) (rest : Reads sources values) :
      Reads (.value v :: sources) (v :: values)
  | query {sources : List Source} {own values : List Value} (table : Table)
      (steps : List SelectStep) (inner : Reads (Program.select table steps).sources own)
      (rest : Reads sources values) :
      Reads (.query (.ofSteps table steps) :: sources) (own ++ values)

/-! ## Conditions on rows -/

theorem predicateScalars_append (first second : List Predicate) :
    predicateScalars (first ++ second) = predicateScalars first ++ predicateScalars second := by
  induction first with
  | nil => rfl
  | cons predicate rest ih =>
      simp only [List.cons_append, predicateScalars, ih, List.append_assoc]

/-- The sources yield what conditions on rows bind. -/
def YieldConditions (sources : List Source) (predicates : List Predicate) : Prop :=
  Yield sources (predicateScalars predicates) (predicateIngredients predicates)

namespace YieldConditions

theorem nil : YieldConditions [] [] :=
  Yield.nil _

theorem append {first second : List Source} {predicates more : List Predicate}
    (h : YieldConditions first predicates) (h' : YieldConditions second more) :
    YieldConditions (first ++ second) (predicates ++ more) := by
  unfold YieldConditions
  rw [predicateScalars_append, predicateIngredients_append]
  exact Yield.append h h'

theorem compare (combinator : Combinator) (column : Option String) (operator : String)
    {value : Operand} {sources : List Source}
    (h : Yield sources value.valueScalars value.ingredients) :
    YieldConditions sources [.compare combinator column operator value] := by
  unfold YieldConditions
  simp only [predicateScalars, predicateIngredients, Predicate.scalars, Predicate.ingredients,
    List.append_nil]
  exact h.cons _

theorem raw (combinator : Combinator) (fragment : Fragment) :
    YieldConditions fragment.sources [.raw combinator fragment] := by
  unfold YieldConditions
  simp only [predicateScalars, Predicate.scalars, List.append_nil]
  exact .fragment fragment _

theorem comparison (combinator : Combinator) (column operator : String) (value : Operand)
    (allowed : isAllowedOperator operator = true) :
    YieldConditions value.valueSources (comparison combinator column operator value) := by
  rw [SqlBuilder.comparison, if_pos allowed]
  exact .compare combinator (some column) operator value.valueSources_yield

theorem listTest (combinator : Combinator) (column operator : String) (items : List Operand) :
    YieldConditions (valueSources items) (listTest combinator column operator items) := by
  cases items with
  | nil => exact nil
  | cons item rest =>
      have items := (Operand.list (item :: rest)).valueSources_yield
      exact .compare combinator (some column) operator items

theorem parenthesized (combinator : Combinator) {sources : List Source}
    {predicates : List Predicate} (h : YieldConditions sources predicates) :
    YieldConditions sources (parenthesized combinator predicates) := by
  cases predicates with
  | nil => exact h
  | cons predicate rest =>
      unfold YieldConditions
      simp only [SqlBuilder.parenthesized, predicateScalars, predicateIngredients,
        Predicate.scalars, Predicate.ingredients, List.append_nil]
      exact h

theorem equalities (combinator : Combinator) (pairs : List (String × Operand)) :
    YieldConditions (pairSources pairs) (equalities combinator pairs) := by
  induction pairs with
  | nil => exact nil
  | cons pair rest ih =>
      have first := compare combinator (some pair.1) "=" pair.2.valueSources_yield
      exact first.append ih

end YieldConditions

/-- The bare word for null binds nothing. -/
theorem Yield.null : Yield [] (Operand.raw nullFragment).valueScalars
    (Operand.raw nullFragment).ingredients := by
  simp only [Operand.valueScalars]
  exact .nil _

/-- A range binds its two ends. -/
theorem Yield.range (low high : Value) : Yield [.value low, .value high]
    (Operand.raw (rangeFragment low high)).valueScalars
    (Operand.raw (rangeFragment low high)).ingredients := by
  have text : slots "? And ?".toList = [.value, .value] := by decide
  have ends : (rangeFragment low high).sources = [.value low, .value high] := by
    rw [Fragment.sources, Fragment.scalars, rangeFragment, text]
    rfl
  rw [← ends]
  simp only [Operand.valueScalars]
  exact .fragment _ _

mutual

theorem Criteria.sources_yield (combinator : Combinator) :
    ∀ criteria : Criteria,
      (∀ operator ∈ criteria.operators, isAllowedOperator operator = true) →
        YieldConditions criteria.sources (criteria.addedPredicates combinator)
  | .equal column value, _ => by
      simp only [Criteria.sources, Criteria.addedPredicates]
      exact .compare combinator (some column) "=" value.valueSources_yield
  | .compare column operator value, allowed => by
      simp only [Criteria.sources, Criteria.addedPredicates]
      simp only [Criteria.operators, List.forall_mem_singleton] at allowed
      exact .comparison combinator column operator value allowed
  | .equalEach pairs, _ => by
      simp only [Criteria.sources, Criteria.addedPredicates]
      exact .equalities combinator pairs
  | .raw fragment, _ => by
      simp only [Criteria.sources, Criteria.addedPredicates]
      exact .raw combinator fragment
  | .group steps, allowed => by
      simp only [Criteria.sources, Criteria.addedPredicates]
      simp only [Criteria.operators] at allowed
      exact .parenthesized combinator (whereSources_yield steps allowed)

theorem WhereStep.sources_yield :
    ∀ step : WhereStep, (∀ operator ∈ step.operators, isAllowedOperator operator = true) →
      YieldConditions step.sources step.addedPredicates
  | .matching combinator criteria, allowed => by
      simp only [WhereStep.sources, WhereStep.addedPredicates]
      simp only [WhereStep.operators] at allowed
      exact Criteria.sources_yield combinator criteria allowed
  | .equal combinator column value, _ => by
      simp only [WhereStep.sources, WhereStep.addedPredicates]
      exact .compare combinator (some column) "=" value.valueSources_yield
  | .compare combinator column operator value, allowed => by
      simp only [WhereStep.sources, WhereStep.addedPredicates]
      simp only [WhereStep.operators, List.forall_mem_singleton] at allowed
      exact .comparison combinator column operator value allowed
  | .equalEach combinator pairs, _ => by
      simp only [WhereStep.sources, WhereStep.addedPredicates]
      exact .equalities combinator pairs
  | .raw combinator fragment, _ => by
      simp only [WhereStep.sources, WhereStep.addedPredicates]
      exact .raw combinator fragment
  | .group combinator steps, allowed => by
      simp only [WhereStep.sources, WhereStep.addedPredicates]
      simp only [WhereStep.operators] at allowed
      exact .parenthesized combinator (whereSources_yield steps allowed)
  | .isIn combinator column items, _ => by
      simp only [WhereStep.sources, WhereStep.addedPredicates]
      exact .listTest combinator column "In" items
  | .isNotIn combinator column items, _ => by
      simp only [WhereStep.sources, WhereStep.addedPredicates]
      exact .listTest combinator column "Not In" items
  | .inQuery combinator column select, _ => by
      simp only [WhereStep.sources, WhereStep.addedPredicates]
      exact .compare combinator (some column) "In" (Operand.query select).valueSources_yield
  | .notInQuery combinator column select, _ => by
      simp only [WhereStep.sources, WhereStep.addedPredicates]
      exact .compare combinator (some column) "Not In" (Operand.query select).valueSources_yield
  | .isNull combinator column, _ => by
      simp only [WhereStep.sources, WhereStep.addedPredicates]
      exact .compare combinator (some column) "Is" .null
  | .isNotNull combinator column, _ => by
      simp only [WhereStep.sources, WhereStep.addedPredicates]
      exact .compare combinator (some column) "Is Not" .null
  | .between combinator column low high, _ => by
      simp only [WhereStep.sources, WhereStep.addedPredicates]
      exact .compare combinator (some column) "Between" (.range low high)
  | .notBetween combinator column low high, _ => by
      simp only [WhereStep.sources, WhereStep.addedPredicates]
      exact .compare combinator (some column) "Not Between" (.range low high)
  | .hasRow combinator select, _ => by
      simp only [WhereStep.sources, WhereStep.addedPredicates]
      exact .compare combinator none "Exists" (Operand.query select).valueSources_yield
  | .hasNoRow combinator select, _ => by
      simp only [WhereStep.sources, WhereStep.addedPredicates]
      exact .compare combinator none "Not Exists" (Operand.query select).valueSources_yield

/-- If no operator is refused, then what steps add binds the sources in the steps. -/
theorem whereSources_yield :
    ∀ steps : List WhereStep,
      (∀ operator ∈ whereOperators steps, isAllowedOperator operator = true) →
        YieldConditions (whereSources steps) (wherePredicates steps)
  | [], _ => by
      simp only [whereSources, wherePredicates]
      exact .nil
  | step :: rest, allowed => by
      simp only [whereSources, wherePredicates]
      simp only [whereOperators, List.forall_mem_append] at allowed
      exact (WhereStep.sources_yield step allowed.1).append (whereSources_yield rest allowed.2)

end

/-! ## Select lists -/

theorem columnScalars_eq_flatMap (columns : List Column) :
    columnScalars columns = columns.flatMap Column.scalars := by
  induction columns with
  | nil => rfl
  | cons column rest ih => simp only [columnScalars, List.flatMap_cons, ih]

theorem ColumnExpr.column_yield (expr : ColumnExpr) (label : Option String) :
    Yield expr.sources (Column.scalars ⟨expr, label⟩) (Column.ingredients ⟨expr, label⟩) := by
  rw [Column.scalars, Column.ingredients]
  exact expr.sources_yield

/-- Entries of a select list that are given together. -/
theorem columns_yield {ι : Type} (expr : ι → ColumnExpr) (label : ι → Option String)
    (entries : List ι) :
    Yield (entries.flatMap fun entry => (expr entry).sources)
      ((entries.map fun entry => (⟨expr entry, label entry⟩ : Column)).flatMap Column.scalars)
      ((entries.map fun entry => (⟨expr entry, label entry⟩ : Column)).flatMap
        Column.ingredients) := by
  rw [List.flatMap_map, List.flatMap_map]
  exact .flatMap fun entry _ => (expr entry).column_yield (label entry)

/-- A star in place of what is counted binds as little as the name that it replaces. -/
theorem countArgument_yield (operand : Operand) :
    Yield operand.nameSources (Select.countArgument operand).nameScalars
      (Select.countArgument operand).ingredients := by
  unfold Select.countArgument
  split
  · dsimp only
    split
    · simp only [Operand.nameSources, Operand.nameScalars]
      exact .nil _
    · exact Operand.nameSources_yield _
  · exact Operand.nameSources_yield _

theorem countColumn_yield (operand : Operand) (label : String) :
    Yield operand.nameSources (countColumn operand label).scalars
      (countColumn operand label).ingredients := by
  unfold countColumn
  simp only [Column.scalars, ColumnExpr.scalars, Call.nameScalars, nameScalars, List.append_nil,
    Column.ingredients, ColumnExpr.ingredients, Call.ingredients, operandIngredients]
  exact (countArgument_yield operand).cons _

theorem SelectStep.columnSources_yield (step : SelectStep) :
    Yield step.columnSources (step.addedColumns.flatMap Column.scalars)
      (step.addedColumns.flatMap Column.ingredients) := by
  cases step with
  | column expr =>
      simp only [addedColumns, List.flatMap_singleton]
      exact expr.column_yield none
  | columnAs expr label =>
      simp only [addedColumns, List.flatMap_singleton]
      exact expr.column_yield (some label)
  | columns exprs => exact columns_yield (fun expr => expr) (fun _ => none) exprs
  | columnsAs entries =>
      exact columns_yield (fun entry => entry.2) (fun entry => some entry.1) entries
  | count =>
      simp only [addedColumns, List.flatMap_singleton]
      exact countColumn_yield (.value (.text "*")) "c"
  | countOf operand label =>
      simp only [addedColumns, List.flatMap_singleton]
      exact countColumn_yield operand label
  | _ => exact .nil _

/-! ## Joins -/

theorem joinScalars_eq_flatMap (joins : List Join) :
    joinScalars joins = joins.flatMap Join.scalars := by
  induction joins with
  | nil => rfl
  | cons join rest ih => simp only [joinScalars, List.flatMap_cons, ih]

theorem OnStep.sources_yield (step : OnStep)
    (allowed : ∀ operator ∈ step.operators, isAllowedOperator operator = true) :
    Yield step.sources (step.addedConditions.flatMap fun condition => condition.key.scalars)
      (step.addedConditions.flatMap OnCondition.ingredients) := by
  cases step with
  | equal combinator column key =>
      simp only [addedConditions, List.flatMap_singleton]
      exact key.sources_yield.cons _
  | compare combinator column operator key =>
      simp only [operators, List.forall_mem_singleton] at allowed
      simp only [addedConditions, if_pos allowed, List.flatMap_singleton]
      exact key.sources_yield.cons _

theorem keyJoin_yield (kind : JoinKind) (table : Table) (column : String) {operator : String}
    (key : JoinKey) (allowed : isAllowedOperator operator = true) :
    Yield (table.sources ++ key.sources)
      ((keyJoin kind table column operator key).flatMap Join.scalars)
      ((keyJoin kind table column operator key).flatMap Join.ingredients) := by
  simp only [keyJoin, if_pos allowed, List.flatMap_singleton, Join.scalars, Join.ingredients]
  exact table.sources_yield.append (key.sources_yield.cons _)

theorem conditionJoin_yield (kind : JoinKind) (table : Table) (steps : List OnStep)
    (allowed : ∀ operator ∈ steps.flatMap OnStep.operators, isAllowedOperator operator = true) :
    Yield (table.sources ++ steps.flatMap OnStep.sources)
      ((conditionJoin kind table steps).flatMap Join.scalars)
      ((conditionJoin kind table steps).flatMap Join.ingredients) := by
  have accepted := (firstRefused_eq_none _).2 allowed
  simp only [conditionJoin, accepted, List.flatMap_singleton, Join.scalars, Join.ingredients,
    JoinCondition.scalars, JoinCondition.ingredients, List.flatMap_assoc]
  refine table.sources_yield.append (.flatMap fun step mem => ?_)
  exact step.sources_yield fun operator h => allowed operator (List.mem_flatMap.2 ⟨step, mem, h⟩)

theorem SelectStep.joinSources_yield (step : SelectStep)
    (allowed : ∀ operator ∈ step.operators, isAllowedOperator operator = true) :
    Yield step.joinSources (step.addedJoins.flatMap Join.scalars)
      (step.addedJoins.flatMap Join.ingredients) := by
  cases step with
  | join kind table column operator key =>
      have listed := allowed operator (List.mem_singleton_self operator)
      exact keyJoin_yield kind table column key listed
  | joinEqual kind table column key =>
      have listed : isAllowedOperator "=" = true := by decide
      have yields := keyJoin_yield kind table column key listed
      rwa [keyJoin, if_pos listed] at yields
  | joinOn kind table steps => exact conditionJoin_yield kind table steps allowed
  | _ => exact .nil _

/-! ## Rows -/

theorem valueSources_eq_flatMap (operands : List Operand) :
    valueSources operands = operands.flatMap Operand.valueSources := by
  induction operands with
  | nil => rfl
  | cons operand rest ih => simp only [valueSources, List.flatMap_cons, ih]

theorem pairSources_eq (pairs : List (String × Operand)) :
    pairSources pairs = valueSources (pairs.map (·.2)) := by
  rw [valueSources_eq_flatMap, List.flatMap_map]
  rfl

theorem InsertStep.rowSources_eq (step : InsertStep) :
    step.rowSources = step.givenRows.flatMap valueSources := by
  cases step with
  | values row => simp only [rowSources, givenRows, List.flatMap_singleton]
  | valuesEach rows => rfl
  | named row => simp only [rowSources, givenRows, List.flatMap_singleton, pairSources_eq]
  | namedEach rows =>
      rw [rowSources, givenRows, List.flatMap_map]
      exact List.flatMap_congr fun row _ => pairSources_eq row
  | _ => rfl

/-- Rows without values bind nothing, so it does not matter that they are left out. -/
theorem flatMap_filledRows {β : Type} {f : List Operand → List β} (nothing : f [] = [])
    (rows : List (List Operand)) : (filledRows rows).flatMap f = rows.flatMap f := by
  induction rows with
  | nil => rfl
  | cons row rest ih =>
      rw [filledRows_cons, List.flatMap_append, ih, List.flatMap_cons]
      cases row with
      | nil =>
          rw [nothing]
          rfl
      | cons operand row => simp [filledRows]

theorem InsertStep.duplicateSources_yield (step : InsertStep) :
    Yield step.duplicateSources (step.addedDuplicates.flatMap DuplicateUpdate.scalars)
      (step.addedDuplicates.flatMap DuplicateUpdate.ingredients) := by
  cases step with
  | onDuplicate column value =>
      simp only [addedDuplicates, List.flatMap_singleton]
      exact value.valueSources_yield
  | onDuplicateEach pairs =>
      simp only [addedDuplicates, List.flatMap_map]
      exact pairSources_yield pairs
  | onDuplicateValues columns =>
      have none : ∀ column ∈ columns, Yield [] (DuplicateUpdate.fromValues column).scalars
          (DuplicateUpdate.fromValues column).ingredients := fun _ _ => .nil _
      have nothing : columns.flatMap (fun _ => ([] : List Source)) = [] := by simp
      have together := Yield.flatMap none
      rw [nothing] at together
      rw [addedDuplicates, List.flatMap_map, List.flatMap_map]
      exact together
  | _ => exact .nil _

/-! ## Statements -/

theorem Settings.scalars_of_unset {settings : Settings} (unset : settings.override = none)
    (clauses : List Value) : settings.scalars clauses = clauses := by
  rw [scalars, unset]

theorem Select.scalars_eq (s : Select) :
    s.scalars = s.settings.scalars (columnScalars s.columns ++ s.table.scalars
      ++ joinScalars s.joins ++ predicateScalars s.predicates) := by
  cases s
  rw [scalars]

namespace Program

theorem mem_flatMap_allowed {ι : Type} {operators : ι → List String} {steps : List ι}
    (allowed : ∀ operator ∈ steps.flatMap operators, isAllowedOperator operator = true) :
    ∀ step ∈ steps, ∀ operator ∈ operators step, isAllowedOperator operator = true :=
  fun step mem operator h => allowed operator (List.mem_flatMap.2 ⟨step, mem, h⟩)

theorem select_yield {table : Table} {steps : List SelectStep}
    (allowed : ∀ operator ∈ steps.flatMap SelectStep.operators, isAllowedOperator operator = true)
    (unset : (Select.ofSteps table steps).settings.override = none) :
    Yield (select table steps).clauseSources (Select.ofSteps table steps).scalars
      (Select.ofSteps table steps).ingredients := by
  have each := mem_flatMap_allowed allowed
  have columns := Yield.flatMap fun step (_ : step ∈ steps) => step.columnSources_yield
  have joins := Yield.flatMap fun step mem => SelectStep.joinSources_yield step (each step mem)
  have conditions := whereSources_yield (steps.flatMap SelectStep.whereSteps) fun operator mem =>
    allowed operator (whereOperators_flatMap_subset SelectStep.whereOperators_subset steps mem)
  have clauses := columns.append (table.sources_yield.append (joins.append conditions))
  have scalars : (Select.ofSteps table steps).scalars
      = (steps.flatMap fun step => step.addedColumns.flatMap Column.scalars) ++ (table.scalars
        ++ ((steps.flatMap fun step => step.addedJoins.flatMap Join.scalars)
        ++ predicateScalars (wherePredicates (steps.flatMap SelectStep.whereSteps)))) := by
    rw [Select.scalars_eq, Settings.scalars_of_unset unset, columnScalars_eq_flatMap,
      joinScalars_eq_flatMap, Select.columns_ofSteps, Select.table_ofSteps, Select.joins_ofSteps,
      Select.predicates_ofSteps, List.flatMap_assoc, List.flatMap_assoc]
    simp only [List.append_assoc]
  have ingredients : (Select.ofSteps table steps).ingredients
      = (steps.flatMap fun step => step.addedColumns.flatMap Column.ingredients)
        ++ (table.ingredients
        ++ ((steps.flatMap fun step => step.addedJoins.flatMap Join.ingredients)
        ++ predicateIngredients (wherePredicates (steps.flatMap SelectStep.whereSteps)))) := by
    rw [Select.ingredients, Settings.ingredients_of_unset unset, Select.columns_ofSteps,
      Select.table_ofSteps, Select.joins_ofSteps, Select.predicates_ofSteps, List.flatMap_assoc,
      List.flatMap_assoc]
    simp only [List.nil_append, List.append_assoc]
  rw [scalars, ingredients]
  exact clauses

theorem insert_yield {table : Table} {steps : List InsertStep}
    (unset : (Insert.ofSteps table steps).settings.override = none) :
    Yield (insert table steps).clauseSources (Insert.ofSteps table steps).scalars
      (Insert.ofSteps table steps).ingredients := by
  have rows := Yield.flatMap fun row (_ : row ∈ steps.flatMap InsertStep.givenRows) =>
    valueSources_yield row
  have duplicates := Yield.flatMap fun step (_ : step ∈ steps) => step.duplicateSources_yield
  rw [← List.flatMap_assoc, ← List.flatMap_assoc] at duplicates
  have clauses := table.sources_yield.append (rows.append duplicates)
  have read : steps.flatMap InsertStep.rowSources
      = (steps.flatMap InsertStep.givenRows).flatMap valueSources := by
    rw [List.flatMap_assoc]
    exact List.flatMap_congr fun step _ => step.rowSources_eq
  rw [clauseSources, read, Insert.scalars, Settings.scalars_of_unset unset, Insert.ingredients,
    Settings.ingredients_of_unset unset, Insert.table_ofSteps, Insert.rows_ofSteps,
    Insert.duplicates_ofSteps, flatMap_filledRows rfl, flatMap_filledRows rfl]
  simpa only [List.nil_append, List.append_assoc] using clauses

theorem update_yield {table : Table} {steps : List UpdateStep}
    (allowed : ∀ operator ∈ steps.flatMap UpdateStep.operators, isAllowedOperator operator = true)
    (unset : (Update.ofSteps table steps).settings.override = none) :
    Yield (update table steps).clauseSources (Update.ofSteps table steps).scalars
      (Update.ofSteps table steps).ingredients := by
  have assignments := pairSources_yield (lastAssignments (steps.flatMap UpdateStep.givenPairs))
  have conditions := whereSources_yield (steps.flatMap UpdateStep.whereSteps) fun operator mem =>
    allowed operator (whereOperators_flatMap_subset UpdateStep.whereOperators_subset steps mem)
  have clauses := table.sources_yield.append (assignments.append conditions)
  rw [clauseSources, Update.scalars, Settings.scalars_of_unset unset, Update.ingredients,
    Settings.ingredients_of_unset unset, Update.table_ofSteps, Update.assignments_ofSteps,
    setAssignments_eq, Update.predicates_ofSteps]
  simpa only [List.nil_append, List.append_assoc] using clauses

theorem delete_yield {table : Table} {steps : List DeleteStep}
    (allowed : ∀ operator ∈ steps.flatMap DeleteStep.operators, isAllowedOperator operator = true)
    (unset : (Delete.ofSteps table steps).settings.override = none) :
    Yield (delete table steps).clauseSources (Delete.ofSteps table steps).scalars
      (Delete.ofSteps table steps).ingredients := by
  have conditions := whereSources_yield (steps.flatMap DeleteStep.whereSteps) fun operator mem =>
    allowed operator (whereOperators_flatMap_subset DeleteStep.whereOperators_subset steps mem)
  have clauses := table.sources_yield.append conditions
  rw [clauseSources, Delete.scalars, Settings.scalars_of_unset unset, Delete.ingredients,
    Settings.ingredients_of_unset unset, Delete.table_ofSteps, Delete.predicates_ofSteps]
  simpa only [List.nil_append] using clauses

/-- If no operator is refused and there is no override, then the sources in the clauses of a program
bind the scalars in the bound positions of its statement. -/
theorem clauseSources_yield {program : Program} (accepted : program.refused = none)
    (unset : program.statement.settings.override = none) :
    Yield program.clauseSources program.statement.scalars program.statement.ingredients := by
  have allowed := (firstRefused_eq_none _).1 accepted
  cases program with
  | select table steps => exact select_yield allowed unset
  | insert table steps => exact insert_yield unset
  | update table steps => exact update_yield allowed unset
  | delete table steps => exact delete_yield allowed unset

theorem refused_of_build {program : Program}
    (built : ∃ query, program.statement.build = .ok query) : program.refused = none := by
  cases refused : program.refused with
  | none => rfl
  | some operator =>
      obtain ⟨query, built⟩ := built
      have rejected := program.rejected_statement.trans refused
      rw [Statement.build_of_rejected rejected] at built
      cases built

end Program

theorem Statement.scalars_of_override {s : Statement} {fragment : Fragment}
    (set : s.settings.override = some fragment) : s.scalars = fragment.scalars := by
  have clauses (settings : Settings) (h : settings.override = some fragment)
      (values : List Value) : settings.scalars values = fragment.scalars := by
    rw [Settings.scalars, h]
  cases s with
  | select s =>
      rw [scalars, Select.scalars_eq]
      exact clauses s.settings set _
  | insert s => exact clauses s.settings set _
  | update s => exact clauses s.settings set _
  | delete s => exact clauses s.settings set _

namespace Program

/-- The sources of a program that builds bind the scalars in the bound positions of its statement,
and the selects among them build. -/
theorem sources_of_build (program : Program)
    (built : ∃ query, program.statement.build = .ok query) :
    program.sources.flatMap Source.scalars = program.statement.scalars
      ∧ ∀ select, .query select ∈ program.sources →
        .query select ∈ program.statement.ingredients
          ∧ ∃ query, (Statement.select select).build = .ok query := by
  have override := program.override_statement
  rw [sources]
  cases last : program.overrides.getLast? with
  | some fragment =>
      have yields := Yield.fragment fragment []
      rw [last] at override
      refine ⟨yields.values.trans (Statement.scalars_of_override override).symm, ?_⟩
      -- a fragment has no selects
      intro select mem
      cases yields.queries select mem
  | none =>
      rw [last] at override
      have yields := clauseSources_yield (refused_of_build built) override
      have fine := (Statement.clauses_of_build built override).2
      refine ⟨yields.values, fun select mem => ?_⟩
      have inside := yields.queries select mem
      exact ⟨inside, (failureOf_eq_none _).1 (fine _ inside)⟩

end Program

/-! ## Reading -/

/-- What sources bind is read from them, if each select is built by a program from which what the
select binds is read. -/
theorem reads_scalars {sources : List Source}
    (each : ∀ select, .query select ∈ sources → ∃ table steps,
      select = .ofSteps table steps ∧ Reads (Program.select table steps).sources select.scalars) :
    Reads sources (sources.flatMap Source.scalars) := by
  induction sources with
  | nil => exact .nil
  | cons source rest ih =>
      have others := ih fun select mem => each select (List.mem_cons_of_mem _ mem)
      cases source with
      | value v => exact .value v others
      | query select =>
          obtain ⟨table, steps, rfl, inner⟩ := each select List.mem_cons_self
          exact .query table steps inner others

/-- Nothing else is read from sources whose selects build. -/
theorem Reads.eq_scalars {sources : List Source} {values : List Value}
    (reads : Reads sources values) (builds : ∀ select, .query select ∈ sources →
      ∃ query, (Statement.select select).build = .ok query) :
    values = sources.flatMap Source.scalars := by
  induction reads with
  | nil => rfl
  | value v rest ih =>
      have others := ih fun select mem => builds select (List.mem_cons_of_mem _ mem)
      rw [others]
      rfl
  | query table steps inner rest ihInner ihRest =>
      have others := ihRest fun select mem => builds select (List.mem_cons_of_mem _ mem)
      -- the select builds, so the selects in the sources of its own program build too
      have nested := Program.sources_of_build (.select table steps)
        (builds _ List.mem_cons_self)
      have own := ihInner fun select mem => (nested.2 select mem).2
      rw [own, others, nested.1]
      rfl

/-- A select that builds is built by a program from which what it binds is read. -/
def Ingredient.Readable (i : Ingredient) : Prop :=
  ∀ select, i = .query select → (∃ query, (Statement.select select).build = .ok query) →
    ∃ table steps,
      select = .ofSteps table steps ∧ Reads (Program.select table steps).sources select.scalars

theorem Program.reads_of_supplied (program : Program)
    (built : ∃ query, program.statement.build = .ok query)
    (readable : ∀ i ∈ program.supplied, i.Readable) :
    Reads program.sources program.statement.scalars := by
  obtain ⟨same, nested⟩ := program.sources_of_build built
  have builtIn : ∀ i : Ingredient, i.BuiltIn → i.Readable := by
    intro i h select same
    subst same
    cases h
  have each := ingredients_statement builtIn program readable
  rw [← same]
  -- a select among the sources is an ingredient, and those are readable
  refine reads_scalars fun select mem => ?_
  obtain ⟨inside, builds⟩ := nested select mem
  exact each _ inside select rfl builds

theorem Ingredient.Supplied.readable {P : Ingredient → Prop} {i : Ingredient} (h : i.Supplied P) :
    i.Readable := by
  induction h with
  | fragment h =>
      intro select same
      cases same
  | function h =>
      intro select same
      cases same
  | query table steps h ih =>
      intro select same built
      cases same
      -- `ih` is about what the program of the select is supplied with
      exact ⟨table, steps, rfl, Program.reads_of_supplied (.select table steps) built ih⟩

/-- The parameters of a query are read off its program: nothing that a caller passes to be bound is
lost, bound twice or moved, at any depth. -/
theorem Program.params_read (program : Program) (complete : program.Complete) {query : Query}
    (built : program.statement.build = .ok query) (values : List Value) :
    Reads program.sources values ↔ values = query.params := by
  rw [Statement.params_of_build built]
  obtain ⟨same, nested⟩ := program.sources_of_build ⟨query, built⟩
  constructor
  · intro reads
    rw [reads.eq_scalars fun select mem => (nested select mem).2, same]
  · rintro rfl
    exact program.reads_of_supplied ⟨query, built⟩ fun i mem => (complete i mem).readable

/-- A column that is set twice, a range inside a subquery that is assigned, and a nested list in a
group of conditions that were added first. -/
theorem Program.params_read_nested :
    let steps := [SelectStep.filter (.between .and "k" (.int 3) (.int 4))]
    let inner := Select.ofSteps (.named "u") steps
    let program := Program.update (.named "t")
      [.filter (.group .and [.isIn .and "c" [.list [.value (.int 5)]], .isNull .or "d"]),
        .assign "a" (.value (.int 1)), .assign "b" (.query inner), .assign "a" (.value (.int 2))]
    program.Complete ∧ Reads program.sources [.int 2, .int 3, .int 4, .int 5]
      ∧ ∃ query, program.statement.build = .ok query
        ∧ [.int 2, .int 3, .int 4, .int 5] = query.params := by
  intro steps inner program
  have complete : program.Complete := by
    have supplied : program.supplied = [.query inner] := rfl
    rw [Program.Complete, Program.Supplies, supplied]
    exact List.forall_mem_singleton.2 (.query (.named "u") steps (List.forall_mem_nil _))
  have read : program.sources = [.value (.int 2), .query inner, .value (.int 5)] := rfl
  have reads : Reads program.sources [.int 2, .int 3, .int 4, .int 5] := by
    have range : Reads (Program.select (.named "u") steps).sources [.int 3, .int 4] :=
      .value _ (.value _ .nil)
    rw [read]
    exact .value _ (.query (.named "u") steps range (.value _ .nil))
  have builds : failureOf program.statement.build = none := by decide +kernel
  obtain ⟨query, built⟩ := (failureOf_eq_none _).1 builds
  exact ⟨complete, reads, query, built, (program.params_read complete built _).1 reads⟩

end SqlBuilder
