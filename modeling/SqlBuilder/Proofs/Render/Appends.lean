import SqlBuilder.Proofs.Render.Ensures
import SqlBuilder.Proofs.Render.Related
import SqlBuilder.Render

set_option autoImplicit false

/-! # Rendering only appends

A rendering does not look at what was collected before it: its text or error is the one that it has
on its own, and what it collects on its own, also if it fails half-way, comes after what was there.
This is closed under the ways in which renderings are put together, so it holds of every clause of
every statement. -/

namespace SqlBuilder

/-- What was collected first, followed by what was collected later. -/
def Bindings.append (first later : Bindings) : Bindings :=
  ⟨first.params ++ later.params, first.nested ++ later.nested⟩

theorem Bindings.append_empty (b : Bindings) : b.append {} = b := by
  simp [append]

theorem Bindings.append_assoc (a b c : Bindings) :
    (a.append b).append c = a.append (b.append c) := by
  simp [append]

namespace Render

variable {α β : Type}

/-- The outcome is the one that the rendering has on its own, and what it collects on its own is
appended. -/
def Appends (r : Render α) : Prop :=
  ∀ before : Bindings, r.run before = ((r.run {}).1, before.append (r.run {}).2)

namespace Appends

theorem pure (a : α) : Appends (Pure.pure a : Render α) := by
  intro before
  rw [run_pure, run_pure, Bindings.append_empty]

theorem throw (e : QueryError) : Appends (MonadExcept.throw e : Render α) := by
  intro before
  rw [run_throw, run_throw, Bindings.append_empty]

theorem bindAll (values : List Value) : Appends (bindAll values) := by
  intro before
  rw [run_bindAll, run_bindAll]
  simp [Bindings.append]

theorem bind {r : Render α} {f : α → Render β} (hr : Appends r) (hf : ∀ a, Appends (f a)) :
    Appends (r >>= f) := by
  intro before
  rw [run_bind, run_bind, hr before]
  rcases r.run {} with ⟨e | a, middle⟩
  · rfl
  · -- the second rendering appends both after `middle` alone and after `before` and `middle`
    simp only
    rw [hf a (before.append middle), hf a middle, Bindings.append_assoc]

theorem map {r : Render α} (f : α → β) (hr : Appends r) : Appends (f <$> r) := by
  rw [← bind_pure_comp]
  exact hr.bind fun a => pure (f a)

/-- Nothing that was collected before is lost. -/
theorem ensures {r : Render α} (hr : Appends r) : Ensures r fun _ _ => True := by
  intro before a after run
  rw [hr before] at run
  exact ⟨(r.run {}).2.params, congrArg Bindings.params (congrArg Prod.snd run).symm, trivial⟩

/-- The run of a subquery starts without values, and with the nested counts of the outer one. -/
theorem run_own {r : Render α} (hr : Appends r) (outer : Bindings) :
    r.run { nested := outer.nested }
      = ((r.run {}).1, ⟨(r.run {}).2.params, outer.nested ++ (r.run {}).2.nested⟩) := by
  rw [hr { nested := outer.nested }]
  simp [Bindings.append]

theorem subquery {r : Render String} (hr : Appends r) : Appends (subquery r) := by
  intro before
  rw [run_subquery, run_subquery, hr.run_own before]
  rcases r.run {} with ⟨e | sql, inner⟩ <;> simp [Bindings.append]

/-- A subquery that is rendered on its own yields the text that it has in place, in parentheses. Its
values are those that it binds in place, unless it fails. -/
theorem subquery_in_place {r : Render String} (hr : Appends r) (outer : Bindings) :
    ((SqlBuilder.subquery r).run outer).1 = (r.run outer).1.map (fun sql => "(" ++ sql ++ ")")
      ∧ ((SqlBuilder.subquery r).run outer).2.params
        = match (r.run outer).1 with
          | .ok _ => (r.run outer).2.params
          | .error _ => outer.params := by
  rw [run_subquery, hr.run_own outer, hr outer]
  rcases r.run {} with ⟨e | sql, inner⟩
  · exact ⟨rfl, rfl⟩
  · exact ⟨rfl, rfl⟩

/-- Appending is a matter of one rendering, so the other side of the relation is left open. -/
theorem parametric : Parametric id fun _ r _ => Appends r where
  pure := pure
  throw := throw
  bindAll := bindAll
  bind := bind
  subquery := subquery

theorem outlined {ings : List Ingredient} {r r' : Render String} {outline : Outline}
    (h : Outlined id ings r r' outline) : Appends r :=
  parametric.outlined h

theorem outlinedEach {ings : List Ingredient} {ι : Type} {tag : ι → String → β}
    {rs rs' : Render (List β)} {shown : List β} {values : List Value} {parts : List StatementPart}
    (h : OutlinedEach id ings tag rs rs' shown values parts) : Appends rs :=
  parametric.outlinedEach h

end Appends

end Render

/-! ## Parts of statements -/

open Render

theorem Operand.renderName_appends (operand : Operand) : operand.renderName.Appends :=
  .outlined (outlined_name _ operand (List.Subset.refl _))

theorem Operand.renderValue_appends (operand : Operand) : operand.renderValue.Appends :=
  .outlined (outlined_value _ operand (List.Subset.refl _))

theorem renderValues_appends (operands : List Operand) : (renderValues operands).Appends :=
  .outlinedEach (outlined_values _ operands (List.Subset.refl _))

theorem Column.render_appends (column : Column) : column.render.Appends :=
  .outlined (outlined _ column (List.Subset.refl _))

theorem renderColumns_appends (columns : List Column) : (renderColumns columns).Appends :=
  .outlinedEach (outlined_columns _ columns (List.Subset.refl _))

theorem Table.render_appends (table : Table) : table.render.Appends :=
  .outlined (outlined _ table (List.Subset.refl _))

theorem renderOn_appends (conditions : List OnCondition) : (renderOn conditions).Appends :=
  .outlined (renderOnParts_outlined conditions (List.Subset.refl _)).conditionText

theorem JoinCondition.render_appends (table : String) (condition : JoinCondition) :
    (condition.render table).Appends := by
  cases condition with
  | keys column operator key =>
      exact .outlined (renderKeys_outlined column operator key (List.Subset.refl _))
  | several conditions =>
      cases conditions with
      | nil => exact .throw _
      | cons condition rest => exact renderOn_appends (condition :: rest)

theorem Join.render_appends (join : Join) : join.render.Appends := by
  obtain ⟨kind, table, condition⟩ := join
  rw [Join.render]
  exact .bind table.render_appends fun text =>
    .bind (condition.render_appends text) fun _ => .pure _

theorem renderJoins_appends (joins : List Join) : (renderJoins joins).Appends :=
  .outlinedEach (outlined_joins _ joins (List.Subset.refl _))

theorem Predicate.render_appends (predicate : Predicate) : predicate.render.Appends :=
  .outlined (outlined _ predicate (List.Subset.refl _))

theorem renderPredicates_appends (predicates : List Predicate) :
    (renderPredicates predicates).Appends :=
  .outlinedEach (outlined_predicates _ predicates (List.Subset.refl _))

theorem renderWhere_appends (predicates : List Predicate) : (renderWhere predicates).Appends :=
  .map _ (renderPredicates_appends predicates)

theorem renderRows_appends (rows : List (List Operand)) : (renderRows rows).Appends :=
  .outlinedEach (outlined_rows rows (List.Subset.refl _))

theorem renderAssignment_appends (column : String) (value : Operand) :
    (renderAssignment column value).Appends :=
  .outlined (renderAssignment_outlined column value (List.Subset.refl _))

theorem renderAssignments_appends (assignments : List (String × Operand)) :
    (renderAssignments assignments).Appends :=
  .outlinedEach (outlined_assignments assignments (List.Subset.refl _))

theorem DuplicateUpdate.render_appends (update : DuplicateUpdate) : update.render.Appends :=
  .outlined (update.outlined (List.Subset.refl _))

theorem renderDuplicates_appends (updates : List DuplicateUpdate) :
    (renderDuplicates updates).Appends :=
  .outlinedEach (outlined_duplicates updates (List.Subset.refl _))

theorem Statement.render_appends (s : Statement) : s.render.Appends :=
  .outlined (s.outlined id)

/-! ## Clauses -/

theorem Clause.render_appends (clause : Clause) : clause.render.Appends := by
  cases clause with
  | raw fragment => exact Appends.parametric.fragment fragment
  | columns columns => exact .map _ (renderColumns_appends columns)
  | table table => exact table.render_appends
  | joins joins => exact .map _ (renderJoins_appends joins)
  | joinConditions conditions => exact renderOn_appends conditions
  | filter predicates => exact renderWhere_appends predicates
  | conditions predicates => exact .map _ (renderPredicates_appends predicates)
  | groupBy columns => exact .pure _
  | orderBy items => exact .pure _
  | limit limit => exact .pure _
  | insertColumns columns => exact .pure _
  | insertRows rows => exact .map _ (renderRows_appends rows)
  | assignments assignments => exact .map _ (renderAssignments_appends assignments)
  | duplicates updates => exact .map _ (renderDuplicates_appends updates)
  | subquery select => exact .subquery (Statement.select select).render_appends
  | statement statement => exact statement.render_appends

/-- Rendering a clause among others gives what it gives on its own, and appends the values that it
binds on its own, whether it succeeds or fails. So a subquery may be rendered on its own and merged,
or in place, but in place the values of a failed one would stay. -/
theorem Clause.render_context_free :
    (∀ (clause : Clause) (outer : Bindings),
      (clause.render.run outer).1 = (clause.render.run {}).1
        ∧ (clause.render.run outer).2.params = outer.params ++ (clause.render.run {}).2.params)
    ∧ ∀ (select : Select) (outer : Bindings),
      ((SqlBuilder.subquery select.render).run outer).1
          = (select.render.run outer).1.map (fun sql => "(" ++ sql ++ ")")
        ∧ ((SqlBuilder.subquery select.render).run outer).2.params
          = match (select.render.run outer).1 with
            | .ok _ => (select.render.run outer).2.params
            | .error _ => outer.params := by
  refine ⟨fun clause outer => ?_, fun select outer => ?_⟩
  · rw [clause.render_appends outer]
    exact ⟨rfl, rfl⟩
  · exact (Clause.statement (.select select)).render_appends.subquery_in_place outer

end SqlBuilder
