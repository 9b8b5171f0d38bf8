import Mathlib.Data.List.Induction
import Mathlib.Data.List.Nodup
import SqlBuilder.Proofs.Frames

set_option autoImplicit false

/-! # The assignments of an update

An update holds its assignments as a map in the order of insertion: each column stands once, where
it is first set, with the operand that it is last set to. `setAssignments_eq` reads this map directly
off the assignments that the steps are given. The SET clause is written from the map, so what an
operand would have bound that was replaced later is not bound. -/

namespace SqlBuilder

/-- The columns that are set, each once, in the order in which they are first set. -/
def firstColumns (pairs : List (String × Operand)) : List String :=
  (pairs.map (·.1)).eraseDups

/-- The operand that a column is set to last. -/
def lastOperand (pairs : List (String × Operand)) (column : String) : Option Operand :=
  pairs.reverse.lookup column

/-- Each column in the place where it is first set, with the operand that it is set to last. -/
def lastAssignments (pairs : List (String × Operand)) : List (String × Operand) :=
  (firstColumns pairs).filterMap fun column =>
    (lastOperand pairs column).map fun value => (column, value)

theorem lookup_cons_eq_ite (assignment : String × Operand) (rest : List (String × Operand))
    (column : String) :
    (assignment :: rest).lookup column
      = if column = assignment.1 then some assignment.2 else rest.lookup column := by
  rw [List.lookup_cons]
  by_cases same : column = assignment.1
  · rw [if_pos same, beq_iff_eq.2 same]
  · rw [if_neg same, beq_eq_false_iff_ne.2 same]

/-! ## One assignment -/

/-- A column that is there already stays where it is, and a new one comes last. -/
theorem columns_setAssignment (column : String) (value : Operand)
    (assignments : List (String × Operand)) :
    (setAssignment column value assignments).map (·.1)
      = if column ∈ assignments.map (·.1) then assignments.map (·.1)
        else assignments.map (·.1) ++ [column] := by
  induction assignments with
  | nil => rfl
  | cons assignment rest ih =>
      rw [setAssignment]
      by_cases same : assignment.1 = column
      · simp [same]
      · have other : column ≠ assignment.1 := fun h => same h.symm
        rw [if_neg same, List.map_cons, ih]
        by_cases mem : column ∈ rest.map (·.1)
        · rw [if_pos mem, List.map_cons, if_pos (List.mem_cons_of_mem _ mem)]
        · have absent : column ∉ assignment.1 :: rest.map (·.1) :=
            List.not_mem_cons_of_ne_of_not_mem other mem
          rw [if_neg mem, List.map_cons, if_neg absent, List.cons_append]

theorem nodup_columns_setAssignment (column : String) (value : Operand)
    {assignments : List (String × Operand)} (distinct : (assignments.map (·.1)).Nodup) :
    ((setAssignment column value assignments).map (·.1)).Nodup := by
  rw [columns_setAssignment]
  by_cases mem : column ∈ assignments.map (·.1)
  · rwa [if_pos mem]
  · rw [if_neg mem]
    rw [← List.concat_eq_append]
    exact List.Nodup.concat mem distinct

/-- An assignment changes the operand of its own column only. -/
theorem lookup_setAssignment (column : String) (value : Operand)
    (assignments : List (String × Operand)) (other : String) :
    (setAssignment column value assignments).lookup other
      = if other = column then some value else assignments.lookup other := by
  induction assignments with
  | nil => rw [setAssignment, lookup_cons_eq_ite]
  | cons assignment rest ih =>
      rw [setAssignment]
      by_cases replaced : assignment.1 = column
      · rw [if_pos replaced, lookup_cons_eq_ite, lookup_cons_eq_ite, replaced]
        by_cases same : other = column
        · rw [if_pos same, if_pos same]
        · rw [if_neg same, if_neg same, if_neg same]
      · rw [if_neg replaced, lookup_cons_eq_ite, lookup_cons_eq_ite, ih]
        by_cases first : other = assignment.1
        · have kept : other ≠ column := fun same => replaced (first.symm.trans same)
          rw [if_pos first, if_neg kept, if_pos first]
        · rw [if_neg first, if_neg first]

/-! ## Runs of assignments -/

theorem setAssignments_concat (pairs assignments : List (String × Operand))
    (pair : String × Operand) :
    setAssignments (pairs ++ [pair]) assignments
      = setAssignment pair.1 pair.2 (setAssignments pairs assignments) :=
  List.foldl_append

theorem firstColumns_concat (pairs : List (String × Operand)) (pair : String × Operand) :
    firstColumns (pairs ++ [pair])
      = if pair.1 ∈ firstColumns pairs then firstColumns pairs
        else firstColumns pairs ++ [pair.1] := by
  unfold firstColumns
  rw [List.map_append, List.eraseDups_append]
  by_cases mem : pair.1 ∈ pairs.map (·.1)
  · simp [List.removeAll, mem]
  · simp [List.removeAll, mem, List.eraseDups_cons]

theorem lastOperand_concat (pairs : List (String × Operand)) (pair : String × Operand)
    (column : String) :
    lastOperand (pairs ++ [pair]) column
      = if column = pair.1 then some pair.2 else lastOperand pairs column := by
  unfold lastOperand
  rw [List.reverse_append, List.reverse_singleton, List.singleton_append, lookup_cons_eq_ite]

theorem columns_setAssignments (pairs : List (String × Operand)) :
    (setAssignments pairs []).map (·.1) = firstColumns pairs := by
  induction pairs using List.reverseRecOn with
  | nil => rfl
  | append_singleton pairs pair ih =>
      rw [setAssignments_concat, columns_setAssignment, ih, firstColumns_concat]

theorem nodup_columns_setAssignments (pairs : List (String × Operand))
    {assignments : List (String × Operand)} (distinct : (assignments.map (·.1)).Nodup) :
    ((setAssignments pairs assignments).map (·.1)).Nodup := by
  induction pairs using List.reverseRecOn with
  | nil => exact distinct
  | append_singleton pairs pair ih =>
      rw [setAssignments_concat]
      exact nodup_columns_setAssignment pair.1 pair.2 ih

theorem lookup_setAssignments (pairs : List (String × Operand)) (column : String) :
    (setAssignments pairs []).lookup column = lastOperand pairs column := by
  induction pairs using List.reverseRecOn with
  | nil => rfl
  | append_singleton pairs pair ih =>
      rw [setAssignments_concat, lookup_setAssignment, ih, lastOperand_concat]

/-- A list of assignments to different columns is determined by its columns and their operands. -/
theorem assignments_eq_filterMap {assignments : List (String × Operand)}
    (distinct : (assignments.map (·.1)).Nodup) :
    assignments = (assignments.map (·.1)).filterMap fun column =>
      (assignments.lookup column).map fun value => (column, value) := by
  induction assignments with
  | nil => rfl
  | cons assignment rest ih =>
      obtain ⟨absent, distinct⟩ := List.nodup_cons.1 distinct
      -- the columns of the rest are not the first one, so they are looked up in the rest
      have unchanged : ∀ column ∈ rest.map (·.1),
          (assignment :: rest).lookup column = rest.lookup column := by
        intro column mem
        have other : column ≠ assignment.1 := by
          intro same
          rw [same] at mem
          exact absent mem
        rw [lookup_cons_eq_ite, if_neg other]
      have tail : rest = (rest.map (·.1)).filterMap fun column =>
          ((assignment :: rest).lookup column).map fun value => (column, value) := by
        conv_lhs => rw [ih distinct]
        refine List.filterMap_congr fun column mem => ?_
        rw [unchanged column mem]
      rw [List.map_cons, List.filterMap_cons, ← tail, lookup_cons_eq_ite, if_pos rfl]
      rfl

/-- Setting columns one after the other keeps each column where it is first set, with the operand
that it is set to last. -/
theorem setAssignments_eq (pairs : List (String × Operand)) :
    setAssignments pairs [] = lastAssignments pairs := by
  have distinct : ((setAssignments pairs []).map (·.1)).Nodup :=
    nodup_columns_setAssignments pairs List.nodup_nil
  rw [assignments_eq_filterMap distinct, columns_setAssignments]
  simp only [lookup_setAssignments]
  rfl

/-! ## The text of assignments -/

/-- What an assignment yields: its column, an equals sign and what its operand yields. -/
def assignmentQuery (assignment : String × Operand) : Except QueryError Query :=
  assignment.2.renderValue.query.map fun value => .bare (escape assignment.1 ++ " = ") ++ value

theorem query_renderAssignment (column : String) (value : Operand) :
    (renderAssignment column value).query = assignmentQuery (column, value) := by
  have rendered : renderAssignment column value
      = (escape column ++ " = " ++ ·) <$> value.renderValue := by
    rw [renderAssignment, map_eq_pure_bind]
  rw [rendered, Render.query_map]
  rfl

theorem renderAssignments_eq_mapM (assignments : List (String × Operand)) :
    renderAssignments assignments
      = assignments.mapM fun assignment => renderAssignment assignment.1 assignment.2 := by
  induction assignments with
  | nil => rfl
  | cons assignment rest ih => rw [renderAssignments, List.mapM_cons, ih]

theorem Clause.query_assignments (assignments : List (String × Operand)) :
    (Clause.assignments assignments).query
      = (assignments.mapM assignmentQuery).map (.joined commas) := by
  have each : ∀ assignment : String × Operand,
      (renderAssignment assignment.1 assignment.2).Appends := fun assignment =>
    renderAssignment_appends assignment.1 assignment.2
  rw [query, render, renderAssignments_eq_mapM, Render.query_mapM each]
  simp only [query_renderAssignment]

namespace Update

/-! ## The SET clause in its statement -/

/-- The text of an update before its assignments. -/
def beforeAssignments (s : Update) : Render String := do
  if s.assignments.isEmpty then
    throw .updateWithoutAssignments
  let table ← s.table.render
  return "Update " ++ table ++ " Set "

/-- The text of an update after its assignments. -/
def afterAssignments (s : Update) : Render String := do
  let conditions ← renderWhere s.predicates
  return conditions ++ s.tail.text

/-- What stands around the assignments of an update. -/
def setFrame (s : Update) : Frame :=
  s.settings.frame s.beforeAssignments s.afterAssignments

theorem afterAssignments_appends (s : Update) : s.afterAssignments.Appends :=
  .bind (renderWhere_appends s.predicates) fun _ => .pure _

theorem build_eq_setFrame (s : Update) :
    (Statement.update s).build = s.setFrame.fill (Clause.assignments s.assignments).query := by
  refine Settings.build_eq_fill ?_ (Clause.assignments s.assignments).render_appends
    s.afterAssignments_appends
  simp only [Statement.render, render, beforeAssignments, afterAssignments, Clause.render]
  cases s.assignments.isEmpty with
  | true => rfl
  | false =>
      simp only [Render.append_eq, bind_assoc, pure_bind, bind_map_left, String.append_assoc,
        Bool.false_eq_true, if_false]

/-! ## Runs of steps -/

/-- Setting several columns at once is setting them one by one. -/
theorem apply_assignEach (s : Update) (pairs : List (String × Operand)) :
    s.apply (.assignEach pairs)
      = (pairs.map fun pair => UpdateStep.assign pair.1 pair.2).foldl apply s := by
  rw [List.foldl_map]
  rfl

theorem ofSteps_assignEach (table : Table) (before after : List UpdateStep)
    (pairs : List (String × Operand)) :
    ofSteps table (before ++ .assignEach pairs :: after)
      = ofSteps table (before ++ pairs.map (fun pair => .assign pair.1 pair.2) ++ after) := by
  unfold ofSteps
  rw [List.foldl_append, List.foldl_cons, apply_assignEach, List.foldl_append, List.foldl_append]

/-- The assignments of an update are a map: each column stands once, where it is first set, with the
operand that it is last set to. Setting several columns at once is setting them one by one. And the
update is built with one assignment in its text for each column of the map, in this order, and with
the values of these assignments only. -/
theorem assignments_last_win (table : Table) (steps : List UpdateStep) :
    let s := ofSteps table steps
    let pairs := steps.flatMap UpdateStep.givenPairs
    (s.assignments.map (·.1)).Nodup
      ∧ s.assignments.map (·.1) = firstColumns pairs
      ∧ (∀ column, s.assignments.lookup column = lastOperand pairs column)
      ∧ (∀ (before after : List UpdateStep) (each : List (String × Operand)),
        ofSteps table (before ++ .assignEach each :: after)
          = ofSteps table (before ++ each.map (fun pair => .assign pair.1 pair.2) ++ after))
      ∧ (Statement.update s).build
        = s.setFrame.fill ((s.assignments.mapM assignmentQuery).map (.joined commas)) := by
  intro s pairs
  have set : s.assignments = setAssignments pairs [] := assignments_ofSteps table steps
  refine ⟨?_, ?_, ?_, ?_, ?_⟩
  · rw [set]
    exact nodup_columns_setAssignments pairs List.nodup_nil
  · rw [set, columns_setAssignments]
  · intro column
    rw [set, lookup_setAssignments]
  · intro before after each
    exact ofSteps_assignEach table before after each
  · rw [build_eq_setFrame, Clause.query_assignments]

example :
    (Statement.update (ofSteps (.named "t")
      [.assign "a" (.value (.int 1)), .assign "b" (.value (.int 2)),
        .assignEach [("c", .value .null), ("a", .list [.value (.int 3), .value (.int 4)])]])).build
      = .ok ⟨"Update `t` Set `a` = (?, ?), `b` = ?, `c` = ?", [.int 3, .int 4, .int 2, .null]⟩ := by
  rfl

end Update

end SqlBuilder
