import Mathlib.Data.List.TakeWhile
import SqlBuilder.Proofs.ClauseOrder
import SqlBuilder.Proofs.Frames

set_option autoImplicit false

/-! # The column list of an insert

Columns are given as such, or by the rows that have names. A row with names supplies the list only
as long as there is none, but columns that are given later are added to the list that it supplied.
So the list begins with the names of the first such row that comes before all given columns, and
goes on with the given columns. -/

namespace SqlBuilder

/-! ## The first list that is not empty -/

/-- The first list that has members, if there is one. -/
def firstFilled (lists : List (List String)) : List String :=
  (lists.find? fun names => !names.isEmpty).getD []

theorem firstFilled_cons (names : List String) (rest : List (List String)) :
    firstFilled (names :: rest) = if names.isEmpty then firstFilled rest else names := by
  unfold firstFilled
  rw [List.find?_cons]
  cases names <;> rfl

theorem firstFilled_singleton (names : List String) : firstFilled [names] = names := by
  rw [firstFilled_cons]
  cases names <;> rfl

/-- A list that was found first stands for those in which it was looked for. -/
theorem firstFilled_append (first second : List (List String)) :
    firstFilled (first ++ second) = firstFilled (firstFilled first :: second) := by
  induction first with
  | nil => rfl
  | cons names rest ih =>
      rw [List.cons_append, firstFilled_cons, ih, firstFilled_cons names rest]
      cases names <;> rfl

theorem firstFilled_eq_nil (lists : List (List String)) :
    firstFilled lists = [] ↔ ∀ names ∈ lists, names = [] := by
  induction lists with
  | nil => simp [firstFilled]
  | cons names rest ih =>
      rw [firstFilled_cons, List.forall_mem_cons, ← ih]
      cases names <;> simp

/-! ## What steps say about columns -/

namespace InsertStep

/-- The columns that a step is given as such. -/
def givenColumns : InsertStep → List String
  | columns names => names
  | _ => []

/-- The names in the rows that a step is given by column name. -/
def rowNames : InsertStep → List (List String)
  | named row => [row.map (·.1)]
  | namedEach rows => rows.map fun row => row.map (·.1)
  | _ => []

theorem keysUnlessGiven_eq (names : List String) (row : List (String × Operand)) :
    keysUnlessGiven names row = firstFilled [names, row.map (·.1)] := by
  rw [firstFilled_cons, firstFilled_singleton]
  rfl

theorem foldl_keysUnlessGiven (rows : List (List (String × Operand))) (names : List String) :
    rows.foldl keysUnlessGiven names
      = firstFilled (names :: rows.map fun row => row.map (·.1)) := by
  induction rows generalizing names with
  | nil => exact (firstFilled_singleton names).symm
  | cons row rest ih =>
      rw [List.foldl_cons, ih, keysUnlessGiven_eq, ← firstFilled_append]
      rfl

/-- A list that there is stays, and without one the names of the first row with names are it; and
given columns are added. -/
theorem columnList_eq (names : List String) (step : InsertStep) :
    step.columnList names = firstFilled (names :: step.rowNames) ++ step.givenColumns := by
  cases step with
  | named row =>
      simp only [columnList, rowNames, givenColumns, keysUnlessGiven_eq, List.append_nil]
  | namedEach rows =>
      simp only [columnList, rowNames, givenColumns, foldl_keysUnlessGiven, List.append_nil]
  | columns more => simp only [columnList, rowNames, givenColumns, firstFilled_singleton]
  | _ => simp only [columnList, rowNames, givenColumns, firstFilled_singleton, List.append_nil]

/-- No step is given both columns and rows with names. -/
theorem rowNames_of_givenColumns {step : InsertStep} (given : ¬step.givenColumns.isEmpty = true) :
    step.rowNames = [] := by
  cases step with
  | columns names => rfl
  | _ => exact absurd rfl given

end InsertStep

/-- The names in the rows by column name that steps are given before any columns. -/
def namesBeforeColumns (steps : List InsertStep) : List (List String) :=
  (steps.takeWhile fun step => step.givenColumns.isEmpty).flatMap InsertStep.rowNames

theorem namesBeforeColumns_cons (step : InsertStep) (rest : List InsertStep) :
    namesBeforeColumns (step :: rest)
      = if step.givenColumns.isEmpty then step.rowNames ++ namesBeforeColumns rest else [] := by
  unfold namesBeforeColumns
  rw [List.takeWhile_cons]
  cases step.givenColumns.isEmpty <;> rfl

theorem namesBeforeColumns_of_none {steps : List InsertStep}
    (none : steps.flatMap InsertStep.givenColumns = []) :
    namesBeforeColumns steps = steps.flatMap InsertStep.rowNames := by
  have each : ∀ step ∈ steps, step.givenColumns.isEmpty = true := fun step mem =>
    List.isEmpty_iff.2 (List.flatMap_eq_nil_iff.1 none step mem)
  rw [namesBeforeColumns, List.takeWhile_eq_self_iff.2 each]

/-! ## The column list -/

/-- After a run, the list that there was or else the first names before any given columns stand
first, and then the given columns. -/
theorem foldl_columnList (steps : List InsertStep) (names : List String) :
    steps.foldl InsertStep.columnList names
      = firstFilled (names :: namesBeforeColumns steps)
        ++ steps.flatMap InsertStep.givenColumns := by
  induction steps generalizing names with
  | nil => exact (List.append_nil _).trans (firstFilled_singleton names) |>.symm
  | cons step rest ih =>
      rw [List.foldl_cons, ih, InsertStep.columnList_eq, namesBeforeColumns_cons, List.flatMap_cons]
      by_cases given : step.givenColumns.isEmpty = true
      · rw [if_pos given, List.isEmpty_iff.1 given, List.append_nil, List.nil_append,
          ← firstFilled_append]
        rfl
      · -- the first given columns end the search for names
        have filled : ¬(names ++ step.givenColumns).isEmpty = true := by
          rw [List.isEmpty_iff, List.append_eq_nil_iff]
          exact fun both => given (List.isEmpty_iff.2 both.2)
        rw [if_neg given, InsertStep.rowNames_of_givenColumns given, firstFilled_singleton,
          firstFilled_cons, if_neg filled, List.append_assoc]

/-- The column list of an insert is the names of the first row by column name before any given
columns, if there is such a row, and then all given columns in the order of the calls. So given
columns are the whole list exactly if no row with names comes before them, and without given
columns the names of the first row are. -/
theorem Insert.column_list (table : Table) (steps : List InsertStep) :
    let s := ofSteps table steps
    let given := steps.flatMap InsertStep.givenColumns
    s.columns = firstFilled (namesBeforeColumns steps) ++ given
      ∧ (s.columns = given ↔ ∀ names ∈ namesBeforeColumns steps, names = [])
      ∧ (given = [] → s.columns = firstFilled (steps.flatMap InsertStep.rowNames))
      ∧ (Statement.insert s).build = s.frame.fill (.ok (.bare (insertColumnsText s.columns))) := by
  intro s given
  have list : s.columns = firstFilled (namesBeforeColumns steps) ++ given := by
    have run := foldl_columnList steps []
    rw [firstFilled_cons] at run
    exact (columns_ofSteps table steps).trans run
  refine ⟨list, ?_, fun none => ?_, s.build_eq⟩
  · rw [list, List.append_left_eq_self, firstFilled_eq_nil]
  · rw [list, none, List.append_nil, namesBeforeColumns_of_none none]

/-- Without given columns an empty row supplies no names, and of two rows with names the first one
supplies them. -/
theorem Insert.column_list_of_names :
    let steps := [InsertStep.named [], .namedEach [[], [("b", .value (.int 1))]], .columns [],
      .named [("a", .value (.int 2))]]
    steps.flatMap InsertStep.givenColumns = []
      ∧ (ofSteps (.named "t") steps).columns = ["b"]
      ∧ (Statement.insert (ofSteps (.named "t") steps)).build
        = .ok ⟨"Insert Into `t` (`b`) Values (?), (?)", [.int 1, .int 2]⟩ := by
  intro steps
  obtain ⟨-, -, names, built⟩ := column_list (.named "t") steps
  refine ⟨rfl, (names rfl).trans rfl, ?_⟩
  rw [built]
  rfl

/-- Columns that are given after a row with names are added to the names of the row, and do not
replace them. -/
theorem Insert.given_columns_after_names :
    let steps := [InsertStep.named [("a", .value (.int 1))], .columns ["x"]]
    (Statement.insert (ofSteps (.named "t") steps)).build
        = .ok ⟨"Insert Into `t` (`a`, `x`) Values (?)", [.int 1]⟩
      ∧ ¬∀ (table : Table) (steps : List InsertStep), steps.flatMap InsertStep.givenColumns ≠ [] →
        (ofSteps table steps).columns = steps.flatMap InsertStep.givenColumns := by
  intro steps
  refine ⟨rfl, fun law => ?_⟩
  have given : ["a", "x"] = ["x"] := law (.named "t") steps (by decide)
  exact absurd given (by decide)

end SqlBuilder
