import SqlBuilder.Proofs.Program

set_option autoImplicit false

/-! # What gets into a statement

Steps let an operator into a statement only if it is on the allow-list, and besides what a caller
supplies they add a few fragments and calls of their own. `Program.throughout` says that nothing else
gets into the statement that a program builds, at any depth. The lemmas before it follow a property
of ingredients through the steps: if it holds of what is there, of what a step is given and of what
is built in, then it holds after the step. -/

namespace SqlBuilder

/-! ## What steps add -/

/-- What steps add of their own accord, and the operators that they let through. -/
inductive Ingredient.BuiltIn : Ingredient → Prop
  | null : BuiltIn (.fragment nullFragment)
  | range (low high : Value) : BuiltIn (.fragment (rangeFragment low high))
  | star : BuiltIn (.fragment { sql := "*" })
  | count : BuiltIn (.function "Count")
  | operator {operator : String} (h : isAllowedOperator operator = true) :
      BuiltIn (.operator operator)

/-- What gets into a statement if the caller supplies ingredients with a property. -/
inductive Ingredient.Granted (P : Ingredient → Prop) : Ingredient → Prop
  | builtIn {i : Ingredient} (h : i.BuiltIn) : Granted P i
  | fragment {fragment : Fragment} (h : P (.fragment fragment)) : Granted P (.fragment fragment)
  | function {name : String} (h : P (.function name)) : Granted P (.function name)

section Steps

variable {Q : Ingredient → Prop}

/-! ### Runs of steps -/

/-- Steps that keep a property of the statement keep it when they are taken one after the other. -/
theorem foldl_invariant {σ ι : Type} {apply : σ → ι → σ} {supplied : ι → List Ingredient}
    {I : σ → Prop} (keeps : ∀ s step, I s → (∀ i ∈ supplied step, Q i) → I (apply s step)) :
    ∀ (steps : List ι) (s : σ), I s → (∀ i ∈ steps.flatMap supplied, Q i) → I (steps.foldl apply s)
  | [], _, hs, _ => hs
  | step :: rest, s, hs, h => by
      simp only [List.flatMap_cons, List.forall_mem_append] at h
      exact foldl_invariant keeps rest (apply s step) (keeps s step hs h.1) h.2

/-! ### Conditions on rows -/

theorem WhereGroup.ingredients_push {group : WhereGroup} {predicate : Predicate}
    (hg : ∀ i ∈ predicateIngredients group.predicates, Q i)
    (hp : ∀ i ∈ predicate.ingredients, Q i) :
    ∀ i ∈ predicateIngredients (group.push predicate).predicates, Q i := by
  simp only [WhereGroup.push, predicateIngredients_append, predicateIngredients, List.append_nil,
    List.forall_mem_append]
  exact ⟨hg, hp⟩

theorem WhereGroup.ingredients_pushGroup {group inner : WhereGroup} (combinator : Combinator)
    (hg : ∀ i ∈ predicateIngredients group.predicates, Q i)
    (hi : ∀ i ∈ predicateIngredients inner.predicates, Q i) :
    ∀ i ∈ predicateIngredients (group.pushGroup combinator inner).predicates, Q i := by
  unfold WhereGroup.pushGroup
  split
  · -- a group without conditions only hands on what it refused
    exact hg
  · simp only [predicateIngredients_append, predicateIngredients, Predicate.ingredients,
      List.append_nil, List.forall_mem_append]
    exact ⟨hg, hi⟩

theorem Settings.ingredients_apply {settings : Settings} (step : SettingStep)
    (hs : ∀ i ∈ settings.ingredients, Q i) (h : ∀ i ∈ step.supplied, Q i) :
    ∀ i ∈ (settings.apply step).ingredients, Q i := by
  cases step with
  | debug flag => exact hs
  | override fragment => exact h
  | attach handle => exact hs

/-! ### Clauses of selects -/

/-- The clauses of a select one by one. -/
theorem Select.forall_ingredients {s : Select} :
    (∀ i ∈ s.ingredients, Q i) ↔
      (∀ i ∈ s.settings.ingredients, Q i) ∧ (∀ i ∈ s.columns.flatMap Column.ingredients, Q i)
        ∧ (∀ i ∈ s.table.ingredients, Q i) ∧ (∀ i ∈ s.joins.flatMap Join.ingredients, Q i)
        ∧ (∀ i ∈ predicateIngredients s.predicates, Q i) := by
  simp only [Select.ingredients, List.forall_mem_append, and_assoc]

theorem Select.ingredients_addColumn {s : Select} {expr : ColumnExpr} (label : Option String)
    (hs : ∀ i ∈ s.ingredients, Q i) (he : ∀ i ∈ expr.ingredients, Q i) :
    ∀ i ∈ (s.addColumn expr label).ingredients, Q i := by
  obtain ⟨settings, columns, rest⟩ := forall_ingredients.1 hs
  refine forall_ingredients.2 ⟨settings, ?_, rest⟩
  simp only [addColumn, List.flatMap_append, List.flatMap_singleton, List.forall_mem_append]
  exact ⟨columns, he⟩

theorem Select.ingredients_addJoin {s : Select} {join : Join}
    (hs : ∀ i ∈ s.ingredients, Q i) (hj : ∀ i ∈ join.ingredients, Q i) :
    ∀ i ∈ (s.addJoin join).ingredients, Q i := by
  obtain ⟨settings, columns, table, joins, predicates⟩ := forall_ingredients.1 hs
  refine forall_ingredients.2 ⟨settings, columns, table, ?_, predicates⟩
  simp only [addJoin, List.flatMap_append, List.flatMap_singleton, List.forall_mem_append]
  exact ⟨joins, hj⟩

/-! ### Clauses of the other statements -/

/-- The clauses of an insert one by one. -/
theorem Insert.forall_ingredients {s : Insert} :
    (∀ i ∈ s.ingredients, Q i) ↔
      (∀ i ∈ s.settings.ingredients, Q i) ∧ (∀ i ∈ s.table.ingredients, Q i)
        ∧ (∀ i ∈ s.rows.flatMap operandIngredients, Q i)
        ∧ (∀ i ∈ s.duplicates.flatMap DuplicateUpdate.ingredients, Q i) := by
  simp only [Insert.ingredients, List.forall_mem_append, and_assoc]

theorem Insert.ingredients_addRow {s : Insert} (row : List Operand)
    (hs : ∀ i ∈ s.ingredients, Q i) (h : ∀ i ∈ operandIngredients row, Q i) :
    ∀ i ∈ (s.addRow row).ingredients, Q i := by
  unfold addRow
  split
  · exact hs
  · obtain ⟨settings, table, rows, duplicates⟩ := forall_ingredients.1 hs
    refine forall_ingredients.2 ⟨settings, table, ?_, duplicates⟩
    simp only [List.flatMap_append, List.flatMap_singleton, List.forall_mem_append]
    exact ⟨rows, h⟩

theorem Insert.ingredients_addNamed {s : Insert} (row : List (String × Operand))
    (hs : ∀ i ∈ s.ingredients, Q i) (h : ∀ i ∈ pairIngredients row, Q i) :
    ∀ i ∈ (s.addNamed row).ingredients, Q i := by
  unfold addNamed
  split
  · exact hs
  · obtain ⟨settings, table, rows, duplicates⟩ := forall_ingredients.1 hs
    refine forall_ingredients.2 ⟨settings, table, ?_, duplicates⟩
    simp only [List.flatMap_append, List.flatMap_singleton, List.forall_mem_append]
    refine ⟨rows, ?_⟩
    simpa only [operandIngredients_eq_flatMap, List.flatMap_map, pairIngredients] using h

theorem Insert.ingredients_addDuplicate {s : Insert} {update : DuplicateUpdate}
    (hs : ∀ i ∈ s.ingredients, Q i) (h : ∀ i ∈ update.ingredients, Q i) :
    ∀ i ∈ (s.addDuplicate update).ingredients, Q i := by
  obtain ⟨settings, table, rows, duplicates⟩ := forall_ingredients.1 hs
  refine forall_ingredients.2 ⟨settings, table, rows, ?_⟩
  simp only [addDuplicate, List.flatMap_append, List.flatMap_singleton, List.forall_mem_append]
  exact ⟨duplicates, h⟩

theorem Insert.ingredients_apply {s : Insert} (step : InsertStep)
    (hs : ∀ i ∈ s.ingredients, Q i) (h : ∀ i ∈ step.supplied, Q i) :
    ∀ i ∈ (s.apply step).ingredients, Q i := by
  cases step with
  | setting step =>
      obtain ⟨settings, rest⟩ := forall_ingredients.1 hs
      exact forall_ingredients.2 ⟨Settings.ingredients_apply step settings h, rest⟩
  | columns columns => exact hs
  | values row => exact ingredients_addRow row hs h
  | valuesEach rows =>
      refine foldl_invariant (I := fun s => ∀ i ∈ s.ingredients, Q i) ?_ rows s hs h
      exact fun s row hs h => ingredients_addRow row hs h
  | named row => exact ingredients_addNamed row hs h
  | namedEach rows =>
      refine foldl_invariant (I := fun s => ∀ i ∈ s.ingredients, Q i) ?_ rows s hs h
      exact fun s row hs h => ingredients_addNamed row hs h
  | ignore flag => exact hs
  | onDuplicate column value => exact ingredients_addDuplicate hs h
  | onDuplicateEach pairs =>
      refine foldl_invariant (I := fun s => ∀ i ∈ s.ingredients, Q i) ?_ pairs s hs h
      exact fun s pair hs h => ingredients_addDuplicate hs h
  | onDuplicateValues columns =>
      obtain ⟨settings, table, rows, duplicates⟩ := forall_ingredients.1 hs
      refine forall_ingredients.2 ⟨settings, table, rows, ?_⟩
      simp only [apply, List.flatMap_append, List.forall_mem_append]
      refine ⟨duplicates, ?_⟩
      simp [DuplicateUpdate.ingredients]

theorem Insert.ingredients_ofSteps (table : Table) (steps : List InsertStep)
    (h : ∀ i ∈ (Program.insert table steps).supplied, Q i) :
    ∀ i ∈ (Insert.ofSteps table steps).ingredients, Q i := by
  obtain ⟨ht, hs⟩ := List.forall_mem_append.1 h
  refine foldl_invariant (I := fun s : Insert => ∀ i ∈ s.ingredients, Q i) ?_ steps
    { table } ?_ hs
  · exact fun s step hs h => ingredients_apply step hs h
  · exact forall_ingredients.2 ⟨by simp [Settings.ingredients], ht, by simp, by simp⟩

/-- The clauses of an update one by one. -/
theorem Update.forall_ingredients {s : Update} :
    (∀ i ∈ s.ingredients, Q i) ↔
      (∀ i ∈ s.settings.ingredients, Q i) ∧ (∀ i ∈ s.table.ingredients, Q i)
        ∧ (∀ i ∈ pairIngredients s.assignments, Q i)
        ∧ (∀ i ∈ predicateIngredients s.predicates, Q i) := by
  simp only [Update.ingredients, List.forall_mem_append, and_assoc]

/-- The operand of an assignment that is replaced is no longer there. -/
theorem pairIngredients_setAssignment (column : String) {value : Operand}
    (hv : ∀ i ∈ value.ingredients, Q i) :
    ∀ assignments : List (String × Operand), (∀ i ∈ pairIngredients assignments, Q i) →
      ∀ i ∈ pairIngredients (setAssignment column value assignments), Q i
  | [], _ => by simpa [setAssignment, pairIngredients] using hv
  | (c, v) :: rest, h => by
      simp only [pairIngredients, List.flatMap_cons, List.forall_mem_append] at h
      unfold setAssignment
      split
      · simp only [pairIngredients, List.flatMap_cons, List.forall_mem_append]
        exact ⟨hv, h.2⟩
      · simp only [pairIngredients, List.flatMap_cons, List.forall_mem_append]
        exact ⟨h.1, pairIngredients_setAssignment column hv rest h.2⟩

theorem Update.ingredients_assign {s : Update} (column : String) {value : Operand}
    (hs : ∀ i ∈ s.ingredients, Q i) (hv : ∀ i ∈ value.ingredients, Q i) :
    ∀ i ∈ (s.assign column value).ingredients, Q i := by
  obtain ⟨settings, table, assignments, predicates⟩ := forall_ingredients.1 hs
  exact forall_ingredients.2
    ⟨settings, table, pairIngredients_setAssignment column hv _ assignments, predicates⟩

/-- The clauses of a delete one by one. -/
theorem Delete.forall_ingredients {s : Delete} :
    (∀ i ∈ s.ingredients, Q i) ↔
      (∀ i ∈ s.settings.ingredients, Q i) ∧ (∀ i ∈ s.table.ingredients, Q i)
        ∧ (∀ i ∈ predicateIngredients s.predicates, Q i) := by
  simp only [Delete.ingredients, List.forall_mem_append, and_assoc]

/-! ### What is built in -/

section BuiltIn

variable (builtIn : ∀ i : Ingredient, i.BuiltIn → Q i)

include builtIn

theorem WhereGroup.ingredients_pushCompare {group : WhereGroup} {value : Operand}
    (combinator : Combinator) (column : Option String) {operator : String}
    (allowed : isAllowedOperator operator = true)
    (hg : ∀ i ∈ predicateIngredients group.predicates, Q i) (hv : ∀ i ∈ value.ingredients, Q i) :
    ∀ i ∈ predicateIngredients (group.push (.compare combinator column operator value)).predicates,
      Q i := by
  apply ingredients_push hg
  simp only [Predicate.ingredients, List.forall_mem_cons]
  exact ⟨builtIn _ (.operator allowed), hv⟩

/-- Of the comparisons with an operator that a caller gives only those with an allowed one are
added. -/
theorem WhereGroup.ingredients_compare {group : WhereGroup} {value : Operand}
    (combinator : Combinator) (column operator : String)
    (hg : ∀ i ∈ predicateIngredients group.predicates, Q i) (hv : ∀ i ∈ value.ingredients, Q i) :
    ∀ i ∈ predicateIngredients (group.compare combinator column operator value).predicates, Q i := by
  unfold WhereGroup.compare
  split
  · rename_i allowed
    exact ingredients_pushCompare builtIn combinator (some column) allowed hg hv
  · exact hg

theorem WhereGroup.ingredients_equalEach (combinator : Combinator)
    (pairs : List (String × Operand)) {group : WhereGroup}
    (hg : ∀ i ∈ predicateIngredients group.predicates, Q i) (hp : ∀ i ∈ pairIngredients pairs, Q i) :
    ∀ i ∈ predicateIngredients (group.equalEach combinator pairs).predicates, Q i := by
  unfold WhereGroup.equalEach
  refine foldl_invariant (I := fun group => ∀ i ∈ predicateIngredients group.predicates, Q i) ?_
    pairs group hg hp
  intro group pair hg hv
  exact ingredients_compare builtIn combinator pair.1 "=" hg hv

theorem WhereGroup.ingredients_compareList {group : WhereGroup} {items : List Operand}
    (combinator : Combinator) (column : String) {operator : String}
    (allowed : isAllowedOperator operator = true)
    (hg : ∀ i ∈ predicateIngredients group.predicates, Q i)
    (hi : ∀ i ∈ operandIngredients items, Q i) :
    ∀ i ∈ predicateIngredients (group.compareList combinator column operator items).predicates,
      Q i := by
  unfold WhereGroup.compareList
  split
  · exact hg
  · apply ingredients_pushCompare builtIn combinator (some column) allowed hg
    simpa only [Operand.ingredients] using hi

end BuiltIn

mutual

theorem Criteria.ingredients_apply (builtIn : ∀ i : Ingredient, i.BuiltIn → Q i)
    (combinator : Combinator) {group : WhereGroup}
    (hg : ∀ i ∈ predicateIngredients group.predicates, Q i) :
    ∀ criteria : Criteria, (∀ i ∈ criteria.supplied, Q i) →
      ∀ i ∈ predicateIngredients (criteria.apply combinator group).predicates, Q i
  | .equal column value, h => by
      simp only [Criteria.supplied] at h
      exact WhereGroup.ingredients_compare builtIn combinator column "=" hg h
  | .compare column operator value, h => by
      simp only [Criteria.supplied] at h
      exact WhereGroup.ingredients_compare builtIn combinator column operator hg h
  | .equalEach pairs, h => by
      simp only [Criteria.supplied] at h
      exact WhereGroup.ingredients_equalEach builtIn combinator pairs hg h
  | .raw fragment, h => by
      simp only [Criteria.supplied] at h
      exact WhereGroup.ingredients_push hg h
  | .group steps, h => by
      simp only [Criteria.supplied] at h
      refine WhereGroup.ingredients_pushGroup combinator hg ?_
      exact ingredients_applyWhere builtIn (by simp [predicateIngredients]) steps h

theorem WhereStep.ingredients_apply (builtIn : ∀ i : Ingredient, i.BuiltIn → Q i)
    {group : WhereGroup}
    (hg : ∀ i ∈ predicateIngredients group.predicates, Q i) :
    ∀ step : WhereStep, (∀ i ∈ step.supplied, Q i) →
      ∀ i ∈ predicateIngredients (step.apply group).predicates, Q i
  | .matching combinator criteria, h => by
      simp only [WhereStep.supplied] at h
      exact Criteria.ingredients_apply builtIn combinator hg criteria h
  | .equal combinator column value, h => by
      simp only [WhereStep.supplied] at h
      exact WhereGroup.ingredients_compare builtIn combinator column "=" hg h
  | .compare combinator column operator value, h => by
      simp only [WhereStep.supplied] at h
      exact WhereGroup.ingredients_compare builtIn combinator column operator hg h
  | .equalEach combinator pairs, h => by
      simp only [WhereStep.supplied] at h
      exact WhereGroup.ingredients_equalEach builtIn combinator pairs hg h
  | .raw combinator fragment, h => by
      simp only [WhereStep.supplied] at h
      exact WhereGroup.ingredients_push hg h
  | .group combinator steps, h => by
      simp only [WhereStep.supplied] at h
      refine WhereGroup.ingredients_pushGroup combinator hg ?_
      exact ingredients_applyWhere builtIn (by simp [predicateIngredients]) steps h
  | .isIn combinator column items, h => by
      simp only [WhereStep.supplied] at h
      exact WhereGroup.ingredients_compareList builtIn combinator column (by decide) hg h
  | .isNotIn combinator column items, h => by
      simp only [WhereStep.supplied] at h
      exact WhereGroup.ingredients_compareList builtIn combinator column (by decide) hg h
  | .inQuery combinator column select, h => by
      simp only [WhereStep.supplied] at h
      exact WhereGroup.ingredients_pushCompare builtIn combinator _ (by decide) hg h
  | .notInQuery combinator column select, h => by
      simp only [WhereStep.supplied] at h
      exact WhereGroup.ingredients_pushCompare builtIn combinator _ (by decide) hg h
  -- nothing is supplied from here on, and the right side is a fragment of the step's own
  | .isNull combinator column, _ =>
      WhereGroup.ingredients_pushCompare builtIn combinator _ (by decide) hg
        (by simpa [Operand.ingredients] using builtIn _ .null)
  | .isNotNull combinator column, _ =>
      WhereGroup.ingredients_pushCompare builtIn combinator _ (by decide) hg
        (by simpa [Operand.ingredients] using builtIn _ .null)
  | .between combinator column low high, _ =>
      WhereGroup.ingredients_pushCompare builtIn combinator _ (by decide) hg
        (by simpa [Operand.ingredients] using builtIn _ (.range low high))
  | .notBetween combinator column low high, _ =>
      WhereGroup.ingredients_pushCompare builtIn combinator _ (by decide) hg
        (by simpa [Operand.ingredients] using builtIn _ (.range low high))
  | .hasRow combinator select, h => by
      simp only [WhereStep.supplied] at h
      exact WhereGroup.ingredients_pushCompare builtIn combinator _ (by decide) hg h
  | .hasNoRow combinator select, h => by
      simp only [WhereStep.supplied] at h
      exact WhereGroup.ingredients_pushCompare builtIn combinator _ (by decide) hg h

theorem ingredients_applyWhere (builtIn : ∀ i : Ingredient, i.BuiltIn → Q i)
    {group : WhereGroup}
    (hg : ∀ i ∈ predicateIngredients group.predicates, Q i) :
    ∀ steps : List WhereStep, (∀ i ∈ whereSupplied steps, Q i) →
      ∀ i ∈ predicateIngredients (applyWhere group steps).predicates, Q i
  | [], _ => hg
  | step :: rest, h => by
      simp only [whereSupplied, List.forall_mem_append] at h
      exact ingredients_applyWhere builtIn (WhereStep.ingredients_apply builtIn hg step h.1) rest h.2

end

section BuiltIn

variable (builtIn : ∀ i : Ingredient, i.BuiltIn → Q i)

include builtIn

/-- A count adds its own call to the operand that is counted. -/
theorem Select.ingredients_addCount {s : Select} (operand : Operand) (label : String)
    (hs : ∀ i ∈ s.ingredients, Q i) (ho : ∀ i ∈ operand.ingredients, Q i) :
    ∀ i ∈ (s.addCount operand label).ingredients, Q i := by
  have argument : ∀ i ∈ (countArgument operand).ingredients, Q i := by
    unfold countArgument
    split
    · dsimp only
      split
      · -- a blank text or a star is counted by a fragment of the step's own
        simpa [Operand.ingredients] using builtIn _ .star
      · exact ho
    · exact ho
  apply ingredients_addColumn (some label) hs
  simp only [ColumnExpr.ingredients, Call.ingredients, operandIngredients, List.append_nil,
    List.forall_mem_cons]
  exact ⟨builtIn _ .count, argument⟩

theorem Select.ingredients_joinKeys {s : Select} {table : Table} {key : JoinKey} (kind : JoinKind)
    (column operator : String) (hs : ∀ i ∈ s.ingredients, Q i)
    (h : ∀ i ∈ table.ingredients ++ key.ingredients, Q i) :
    ∀ i ∈ (s.joinKeys kind table column operator key).ingredients, Q i := by
  unfold joinKeys
  split
  · rename_i allowed
    obtain ⟨table, key⟩ := List.forall_mem_append.1 h
    apply ingredients_addJoin hs
    simp only [Join.ingredients, JoinCondition.ingredients, List.forall_mem_append,
      List.forall_mem_cons]
    exact ⟨table, builtIn _ (.operator allowed), key⟩
  · exact hs

theorem JoinOn.ingredients_apply {join : JoinOn} (step : OnStep)
    (hj : ∀ i ∈ join.conditions.flatMap OnCondition.ingredients, Q i)
    (h : ∀ i ∈ step.supplied, Q i) :
    ∀ i ∈ (join.apply step).conditions.flatMap OnCondition.ingredients, Q i := by
  have compare (combinator : Combinator) (column operator : String) (key : JoinKey)
      (hk : ∀ i ∈ key.ingredients, Q i) :
      ∀ i ∈ (join.compare combinator column operator key).conditions.flatMap
        OnCondition.ingredients, Q i := by
    unfold JoinOn.compare
    split
    · rename_i allowed
      simp only [List.flatMap_append, List.flatMap_singleton, OnCondition.ingredients,
        List.forall_mem_append, List.forall_mem_cons]
      exact ⟨hj, builtIn _ (.operator allowed), hk⟩
    · exact hj
  cases step with
  | equal combinator column key => exact compare combinator column "=" key h
  | compare combinator column operator key => exact compare combinator column operator key h

theorem JoinOn.ingredients_ofSteps (steps : List OnStep)
    (h : ∀ i ∈ steps.flatMap OnStep.supplied, Q i) :
    ∀ i ∈ (JoinOn.ofSteps steps).conditions.flatMap OnCondition.ingredients, Q i := by
  refine foldl_invariant
    (I := fun join : JoinOn => ∀ i ∈ join.conditions.flatMap OnCondition.ingredients, Q i) ?_
    steps {} (by simp) h
  exact fun join step hj hs => ingredients_apply builtIn step hj hs

theorem Select.ingredients_joinOn {s : Select} {table : Table} (kind : JoinKind)
    (steps : List OnStep) (hs : ∀ i ∈ s.ingredients, Q i)
    (h : ∀ i ∈ table.ingredients ++ steps.flatMap OnStep.supplied, Q i) :
    ∀ i ∈ (s.joinOn kind table (.ofSteps steps)).ingredients, Q i := by
  unfold joinOn
  split
  · exact hs
  · obtain ⟨table, conditions⟩ := List.forall_mem_append.1 h
    apply ingredients_addJoin hs
    simp only [Join.ingredients, JoinCondition.ingredients, List.forall_mem_append]
    exact ⟨table, JoinOn.ingredients_ofSteps builtIn steps conditions⟩

theorem Select.ingredients_filter {s : Select} (step : WhereStep)
    (hs : ∀ i ∈ s.ingredients, Q i) (h : ∀ i ∈ step.supplied, Q i) :
    ∀ i ∈ (s.filter step).ingredients, Q i := by
  obtain ⟨settings, columns, table, joins, predicates⟩ := forall_ingredients.1 hs
  refine forall_ingredients.2 ⟨settings, columns, table, joins, ?_⟩
  exact WhereStep.ingredients_apply builtIn predicates step h

theorem Select.ingredients_apply {s : Select} (step : SelectStep)
    (hs : ∀ i ∈ s.ingredients, Q i) (h : ∀ i ∈ step.supplied, Q i) :
    ∀ i ∈ (s.apply step).ingredients, Q i := by
  cases step with
  | filter step => exact ingredients_filter builtIn step hs h
  | tail step => exact hs
  | setting step =>
      obtain ⟨settings, rest⟩ := forall_ingredients.1 hs
      exact forall_ingredients.2 ⟨Settings.ingredients_apply step settings h, rest⟩
  | column expr => exact ingredients_addColumn none hs h
  | columnAs expr label => exact ingredients_addColumn (some label) hs h
  | columns exprs =>
      refine foldl_invariant (I := fun s => ∀ i ∈ s.ingredients, Q i) ?_ exprs s hs h
      exact fun s expr hs he => ingredients_addColumn none hs he
  | columnsAs entries =>
      refine foldl_invariant (I := fun s => ∀ i ∈ s.ingredients, Q i) ?_ entries s hs h
      exact fun s entry hs he => ingredients_addColumn (some entry.1) hs he
  | distinct flag => exact hs
  | count => exact ingredients_addCount builtIn _ _ hs (by simp [Operand.ingredients])
  | countOf operand label => exact ingredients_addCount builtIn _ _ hs h
  | groupBy column => exact hs
  | groupByEach columns => exact hs
  | join kind table column operator key => exact ingredients_joinKeys builtIn kind _ _ hs h
  | joinEqual kind table column key => exact ingredients_joinKeys builtIn kind _ _ hs h
  | joinOn kind table steps => exact ingredients_joinOn builtIn kind steps hs h

theorem Select.ingredients_ofSteps (table : Table) (steps : List SelectStep)
    (h : ∀ i ∈ (Program.select table steps).supplied, Q i) :
    ∀ i ∈ (Select.ofSteps table steps).ingredients, Q i := by
  obtain ⟨ht, hs⟩ := List.forall_mem_append.1 h
  refine foldl_invariant (I := fun s => ∀ i ∈ s.ingredients, Q i) ?_ steps (ofTable table) ?_ hs
  · exact fun s step hs h => ingredients_apply builtIn step hs h
  · exact forall_ingredients.2 ⟨by simp [ofTable, Settings.ingredients], by simp [ofTable], ht,
      by simp [ofTable], by simp [ofTable, predicateIngredients]⟩

theorem Update.ingredients_filter {s : Update} (step : WhereStep)
    (hs : ∀ i ∈ s.ingredients, Q i) (h : ∀ i ∈ step.supplied, Q i) :
    ∀ i ∈ (s.filter step).ingredients, Q i := by
  obtain ⟨settings, table, assignments, predicates⟩ := forall_ingredients.1 hs
  refine forall_ingredients.2 ⟨settings, table, assignments, ?_⟩
  exact WhereStep.ingredients_apply builtIn predicates step h

theorem Update.ingredients_apply {s : Update} (step : UpdateStep)
    (hs : ∀ i ∈ s.ingredients, Q i) (h : ∀ i ∈ step.supplied, Q i) :
    ∀ i ∈ (s.apply step).ingredients, Q i := by
  cases step with
  | filter step => exact ingredients_filter builtIn step hs h
  | tail step => exact hs
  | setting step =>
      obtain ⟨settings, rest⟩ := forall_ingredients.1 hs
      exact forall_ingredients.2 ⟨Settings.ingredients_apply step settings h, rest⟩
  | assign column value => exact ingredients_assign column hs h
  | assignEach pairs =>
      refine foldl_invariant (I := fun s => ∀ i ∈ s.ingredients, Q i) ?_ pairs s hs h
      exact fun s pair hs h => ingredients_assign pair.1 hs h

theorem Update.ingredients_ofSteps (table : Table) (steps : List UpdateStep)
    (h : ∀ i ∈ (Program.update table steps).supplied, Q i) :
    ∀ i ∈ (Update.ofSteps table steps).ingredients, Q i := by
  obtain ⟨ht, hs⟩ := List.forall_mem_append.1 h
  refine foldl_invariant (I := fun s : Update => ∀ i ∈ s.ingredients, Q i) ?_ steps
    { table } ?_ hs
  · exact fun s step hs h => ingredients_apply builtIn step hs h
  · exact forall_ingredients.2 ⟨by simp [Settings.ingredients], ht, by simp [pairIngredients],
      by simp [predicateIngredients]⟩

theorem Delete.ingredients_filter {s : Delete} (step : WhereStep)
    (hs : ∀ i ∈ s.ingredients, Q i) (h : ∀ i ∈ step.supplied, Q i) :
    ∀ i ∈ (s.filter step).ingredients, Q i := by
  obtain ⟨settings, table, predicates⟩ := forall_ingredients.1 hs
  refine forall_ingredients.2 ⟨settings, table, ?_⟩
  exact WhereStep.ingredients_apply builtIn predicates step h

theorem Delete.ingredients_apply {s : Delete} (step : DeleteStep)
    (hs : ∀ i ∈ s.ingredients, Q i) (h : ∀ i ∈ step.supplied, Q i) :
    ∀ i ∈ (s.apply step).ingredients, Q i := by
  cases step with
  | filter step => exact ingredients_filter builtIn step hs h
  | tail step => exact hs
  | setting step =>
      obtain ⟨settings, rest⟩ := forall_ingredients.1 hs
      exact forall_ingredients.2 ⟨Settings.ingredients_apply step settings h, rest⟩

theorem Delete.ingredients_ofSteps (table : Table) (steps : List DeleteStep)
    (h : ∀ i ∈ (Program.delete table steps).supplied, Q i) :
    ∀ i ∈ (Delete.ofSteps table steps).ingredients, Q i := by
  obtain ⟨ht, hs⟩ := List.forall_mem_append.1 h
  refine foldl_invariant (I := fun s : Delete => ∀ i ∈ s.ingredients, Q i) ?_ steps
    { table } ?_ hs
  · exact fun s step hs h => ingredients_apply builtIn step hs h
  · exact forall_ingredients.2 ⟨by simp [Settings.ingredients], ht, by simp [predicateIngredients]⟩

/-- A property of what steps add and of everything that a program supplies is a property of
everything in the statement that the program builds. -/
theorem Program.ingredients_statement (program : Program) (h : ∀ i ∈ program.supplied, Q i) :
    ∀ i ∈ program.statement.ingredients, Q i := by
  cases program with
  | select table steps => exact Select.ingredients_ofSteps builtIn table steps h
  | insert table steps => exact Insert.ingredients_ofSteps table steps h
  | update table steps => exact Update.ingredients_ofSteps builtIn table steps h
  | delete table steps => exact Delete.ingredients_ofSteps builtIn table steps h

end BuiltIn

end Steps

/-! ## Reachable statements at any depth -/

/-- Built-in ingredients are no selects, so a property of them holds throughout. -/
theorem Ingredient.BuiltIn.throughout {Q : Ingredient → Prop} {i : Ingredient} (h : i.BuiltIn)
    (hq : Q i) : i.Throughout Q := by
  cases h with
  | null => exact .fragment hq
  | range low high => exact .fragment hq
  | star => exact .fragment hq
  | count => exact .function hq
  | operator allowed => exact .operator hq

theorem Ingredient.Supplied.throughout {P : Ingredient → Prop} {i : Ingredient}
    (h : i.Supplied P) : i.Throughout (Granted P) := by
  induction h with
  | fragment h => exact .fragment (.fragment h)
  | function h => exact .function (.function h)
  | query table steps h ih =>
      -- the induction covers what the select's own steps are given
      refine .query (Select.ingredients_ofSteps ?_ table steps ih)
      exact fun i hi => hi.throughout (.builtIn hi)

/-- At any depth of a statement that a program builds there is nothing but what the program supplies
and what the steps add, and no operator from outside the allow-list. -/
theorem Program.throughout {P : Ingredient → Prop} (program : Program) (h : program.Supplies P) :
    program.statement.Throughout (Ingredient.Granted P) := by
  refine ingredients_statement ?_ program fun i hi => (h i hi).throughout
  exact fun i hi => hi.throughout (.builtIn hi)

end SqlBuilder
