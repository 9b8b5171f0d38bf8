import SqlBuilder.Proofs.Contributions

set_option autoImplicit false

/-! # How statements are assembled

Each clause of a statement that steps build is put together from what the single steps contribute to
it, in the order of the steps. One equation per kind of statement says what a step does, clause by
clause; the equations on runs of steps follow from it. Assignments are the exception: setting a
column again replaces its operand where it stands. -/

namespace SqlBuilder

/-! ## Selects -/

/-- A count of the rows in which an operand is not null. -/
def countColumn (operand : Operand) (label : String) : Column :=
  ⟨.call ⟨"Count", [Select.countArgument operand]⟩, some label⟩

/-- The entries of the select list that a step contributes. -/
@[simp]
def SelectStep.addedColumns : SelectStep → List Column
  | .column expr => [⟨expr, none⟩]
  | .columnAs expr label => [⟨expr, some label⟩]
  | .columns exprs => exprs.map fun expr => ⟨expr, none⟩
  | .columnsAs entries => entries.map fun entry => ⟨entry.2, some entry.1⟩
  | .count => [countColumn (.value (.text "*")) "c"]
  | .countOf operand label => [countColumn operand label]
  | _ => []

/-- The joins that a step contributes. -/
@[simp]
def SelectStep.addedJoins : SelectStep → List Join
  | .join kind table name operator key => keyJoin kind table name operator key
  | .joinEqual kind table name key => [⟨kind, table, .keys name "=" key⟩]
  | .joinOn kind table steps => conditionJoin kind table steps
  | _ => []

/-- The columns by which a step groups the rows. -/
@[simp]
def SelectStep.addedGroups : SelectStep → List String
  | .groupBy name => [name]
  | .groupByEach names => names
  | _ => []

/-- The flag that a step sets, if it sets it. -/
@[simp]
def SelectStep.distinctFlag : SelectStep → Option Bool
  | .distinct flag => some flag
  | _ => none

/-- The step on the order and the limit of rows that a step on a select is, if it is one. -/
@[simp]
def SelectStep.tailSteps : SelectStep → List TailStep
  | .tail step => [step]
  | _ => []

namespace Select

theorem foldl_addColumn {ι : Type} (expr : ι → ColumnExpr) (label : ι → Option String)
    (entries : List ι) (s : Select) :
    entries.foldl (fun s entry => s.addColumn (expr entry) (label entry)) s
      = { s with columns := s.columns ++ entries.map fun entry => ⟨expr entry, label entry⟩ } := by
  induction entries generalizing s with
  | nil =>
      cases s
      simp only [List.foldl_nil, List.map_nil, List.append_nil]
  | cons entry rest ih =>
      rw [List.foldl_cons, ih, addColumn]
      simp only [List.map_cons, List.append_assoc, List.cons_append, List.nil_append]

/-- What a step does to a select, clause by clause. -/
theorem apply_eq (s : Select) (step : SelectStep) :
    s.apply step
      = { settings := step.settingSteps.foldl Settings.apply
            (s.settings.refuse (firstRefused step.operators))
          table := s.table
          columns := s.columns ++ step.addedColumns
          distinct := step.distinctFlag.getD s.distinct
          joins := s.joins ++ step.addedJoins
          predicates := s.predicates ++ wherePredicates step.whereSteps
          groupBy := s.groupBy ++ step.addedGroups
          tail := step.tailSteps.foldl Tail.apply s.tail } := by
  cases s
  cases step with
  | filter step => simp [apply, filter_eq, wherePredicates]
  | columns exprs =>
      have added := foldl_addColumn (fun expr : ColumnExpr => expr) fun _ => none
      simp [apply, added, wherePredicates]
  | columnsAs entries =>
      have added := foldl_addColumn (fun entry : String × ColumnExpr => entry.2)
        fun entry => some entry.1
      simp [apply, added, wherePredicates]
  | join kind table column operator key => simp [apply, joinKeys_eq, wherePredicates]
  | joinEqual kind table column key =>
      have allowed : isAllowedOperator "=" = true := by decide
      simp [apply, joinKeys_eq, keyJoin, allowed, firstRefused_of_allowed, wherePredicates]
  | joinOn kind table steps => simp [apply, joinOn_eq, wherePredicates]
  | _ => simp [apply, addCount, addColumn, countColumn, wherePredicates]

variable (table : Table) (steps : List SelectStep)

theorem settings_ofSteps :
    (ofSteps table steps).settings
      = (steps.flatMap SelectStep.settingSteps).foldl Settings.apply
          (({} : Settings).refuse (firstRefused (steps.flatMap SelectStep.operators))) :=
  foldl_settings apply settings SelectStep.operators SelectStep.settingSteps
    (fun s step => by rw [apply_eq]) steps (ofTable table)

theorem table_ofSteps : (ofSteps table steps).table = table :=
  foldl_keeps apply Select.table (fun s step => by rw [apply_eq]) steps (ofTable table)

theorem columns_ofSteps :
    (ofSteps table steps).columns = steps.flatMap SelectStep.addedColumns :=
  foldl_adds apply columns SelectStep.addedColumns (fun s step => by rw [apply_eq]) steps
    (ofTable table)

theorem joins_ofSteps : (ofSteps table steps).joins = steps.flatMap SelectStep.addedJoins :=
  foldl_adds apply joins SelectStep.addedJoins (fun s step => by rw [apply_eq]) steps
    (ofTable table)

theorem predicates_ofSteps :
    (ofSteps table steps).predicates = wherePredicates (steps.flatMap SelectStep.whereSteps) := by
  rw [wherePredicates_flatMap]
  exact foldl_adds apply predicates (fun step => wherePredicates step.whereSteps)
    (fun s step => by rw [apply_eq]) steps (ofTable table)

end Select

/-! ## Inserts -/

/-- The rows that a step is given, empty ones included. -/
@[simp]
def InsertStep.givenRows : InsertStep → List (List Operand)
  | .values row => [row]
  | .valuesEach rows => rows
  | .named row => [row.map (·.2)]
  | .namedEach rows => rows.map fun row => row.map (·.2)
  | _ => []

/-- The updates of rows that are there already that a step contributes. -/
@[simp]
def InsertStep.addedDuplicates : InsertStep → List DuplicateUpdate
  | .onDuplicate name value => [.assign name value]
  | .onDuplicateEach pairs => pairs.map fun pair => .assign pair.1 pair.2
  | .onDuplicateValues names => names.map .fromValues
  | _ => []

/-- The column list of an insert after a row by column name. -/
def keysUnlessGiven (names : List String) (row : List (String × Operand)) : List String :=
  if names.isEmpty then row.map (·.1) else names

@[simp]
theorem keysUnlessGiven_nil (names : List String) : keysUnlessGiven names [] = names := by
  cases names <;> rfl

/-- The column list of an insert after a step. -/
@[simp]
def InsertStep.columnList (names : List String) : InsertStep → List String
  | .columns more => names ++ more
  | .named row => keysUnlessGiven names row
  | .namedEach rows => rows.foldl keysUnlessGiven names
  | _ => names

/-- The flag that a step sets, if it sets it. -/
@[simp]
def InsertStep.ignoreFlag : InsertStep → Option Bool
  | .ignore flag => some flag
  | _ => none

/-- The rows that have values. -/
def filledRows (rows : List (List Operand)) : List (List Operand) :=
  rows.filter fun row => !row.isEmpty

@[simp]
theorem filledRows_nil : filledRows [] = [] := rfl

theorem filledRows_cons (row : List Operand) (rest : List (List Operand)) :
    filledRows (row :: rest) = filledRows [row] ++ filledRows rest := by
  unfold filledRows
  rw [← List.filter_append, List.singleton_append]

namespace Insert

theorem addRow_eq (s : Insert) (row : List Operand) :
    s.addRow row = { s with rows := s.rows ++ filledRows [row] } := by
  unfold addRow filledRows
  cases row <;> simp

theorem addNamed_eq (s : Insert) (row : List (String × Operand)) :
    s.addNamed row
      = { s with
          columns := keysUnlessGiven s.columns row
          rows := s.rows ++ filledRows [row.map (·.2)] } := by
  cases row with
  | nil => simp [addNamed, filledRows]
  | cons pair rest => simp [addNamed, filledRows, keysUnlessGiven]

theorem foldl_addRow (rows : List (List Operand)) (s : Insert) :
    rows.foldl addRow s = { s with rows := s.rows ++ filledRows rows } := by
  induction rows generalizing s with
  | nil => simp
  | cons row rest ih =>
      rw [List.foldl_cons, ih, addRow_eq, filledRows_cons row rest, List.append_assoc]

theorem foldl_addNamed (rows : List (List (String × Operand))) (s : Insert) :
    rows.foldl addNamed s
      = { s with
          columns := rows.foldl keysUnlessGiven s.columns
          rows := s.rows ++ filledRows (rows.map fun row => row.map (·.2)) } := by
  induction rows generalizing s with
  | nil => simp
  | cons row rest ih =>
      have first := filledRows_cons (row.map (·.2)) (rest.map fun row => row.map (·.2))
      rw [List.foldl_cons, ih, addNamed_eq, List.map_cons, first, List.append_assoc]
      rfl

theorem foldl_addDuplicate (pairs : List (String × Operand)) (s : Insert) :
    pairs.foldl (fun s pair => s.addDuplicate (.assign pair.1 pair.2)) s
      = { s with duplicates := s.duplicates ++ pairs.map fun pair => .assign pair.1 pair.2 } := by
  induction pairs generalizing s with
  | nil => simp
  | cons pair rest ih =>
      rw [List.foldl_cons, ih, addDuplicate]
      simp

/-- What a step does to an insert, clause by clause. -/
theorem apply_eq (s : Insert) (step : InsertStep) :
    s.apply step
      = { settings := step.settingSteps.foldl Settings.apply s.settings
          table := s.table
          columns := step.columnList s.columns
          rows := s.rows ++ filledRows step.givenRows
          duplicates := s.duplicates ++ step.addedDuplicates
          ignore := step.ignoreFlag.getD s.ignore } := by
  cases step with
  | values row => simp [apply, addRow_eq]
  | valuesEach rows => simp [apply, foldl_addRow]
  | named row => simp [apply, addNamed_eq]
  | namedEach rows => simp [apply, foldl_addNamed]
  | onDuplicateEach pairs => simp [apply, foldl_addDuplicate]
  | _ => simp [apply, addDuplicate]

variable (table : Table) (steps : List InsertStep)

theorem settings_ofSteps :
    (ofSteps table steps).settings
      = (steps.flatMap InsertStep.settingSteps).foldl Settings.apply {} := by
  -- no step of an insert takes an operator
  have nothing : steps.flatMap (fun _ : InsertStep => ([] : List String)) = [] := by simp
  have run := foldl_settings apply settings (fun _ : InsertStep => []) InsertStep.settingSteps
    (fun s step => by rw [apply_eq, firstRefused_nil, Settings.refuse_none]) steps { table }
  rwa [nothing, firstRefused_nil, Settings.refuse_none] at run

theorem table_ofSteps : (ofSteps table steps).table = table :=
  foldl_keeps apply Insert.table (fun s step => by rw [apply_eq]) steps { table }

theorem rows_ofSteps :
    (ofSteps table steps).rows = filledRows (steps.flatMap InsertStep.givenRows) := by
  have added := foldl_adds apply rows (fun step => filledRows step.givenRows)
    (fun s step => by rw [apply_eq]) steps { table }
  rw [filledRows, List.filter_flatMap]
  exact added

theorem duplicates_ofSteps :
    (ofSteps table steps).duplicates = steps.flatMap InsertStep.addedDuplicates :=
  foldl_adds apply duplicates InsertStep.addedDuplicates (fun s step => by rw [apply_eq]) steps
    { table }

end Insert

/-! ## Updates and deletes -/

/-- The assignments that a step is given. -/
@[simp]
def UpdateStep.givenPairs : UpdateStep → List (String × Operand)
  | .assign name value => [(name, value)]
  | .assignEach pairs => pairs
  | _ => []

/-- The step on the order and the limit of rows that a step on an update is, if it is one. -/
@[simp]
def UpdateStep.tailSteps : UpdateStep → List TailStep
  | .tail step => [step]
  | _ => []

/-- The step on the order and the limit of rows that a step on a delete is, if it is one. -/
@[simp]
def DeleteStep.tailSteps : DeleteStep → List TailStep
  | .tail step => [step]
  | _ => []

/-- Sets columns one after the other in a list of assignments. -/
def setAssignments (pairs assignments : List (String × Operand)) : List (String × Operand) :=
  pairs.foldl (fun assignments pair => setAssignment pair.1 pair.2 assignments) assignments

namespace Update

theorem filter_eq (s : Update) (step : WhereStep) :
    s.filter step
      = { s with
          predicates := s.predicates ++ step.addedPredicates
          settings := s.settings.refuse (firstRefused step.operators) } := by
  simp only [filter, WhereStep.apply_eq]
  rfl

theorem foldl_assign (pairs : List (String × Operand)) (s : Update) :
    pairs.foldl (fun s pair => s.assign pair.1 pair.2) s
      = { s with assignments := setAssignments pairs s.assignments } := by
  induction pairs generalizing s with
  | nil => rfl
  | cons pair rest ih =>
      rw [List.foldl_cons, ih]
      rfl

/-- What a step does to an update, clause by clause. -/
theorem apply_eq (s : Update) (step : UpdateStep) :
    s.apply step
      = { settings := step.settingSteps.foldl Settings.apply
            (s.settings.refuse (firstRefused step.operators))
          table := s.table
          assignments := setAssignments step.givenPairs s.assignments
          predicates := s.predicates ++ wherePredicates step.whereSteps
          tail := step.tailSteps.foldl Tail.apply s.tail } := by
  cases step with
  | filter step => simp [apply, filter_eq, setAssignments, wherePredicates]
  | assignEach pairs => simp [apply, foldl_assign, wherePredicates]
  | _ => simp [apply, assign, setAssignments, wherePredicates]

variable (table : Table) (steps : List UpdateStep)

theorem settings_ofSteps :
    (ofSteps table steps).settings
      = (steps.flatMap UpdateStep.settingSteps).foldl Settings.apply
          (({} : Settings).refuse (firstRefused (steps.flatMap UpdateStep.operators))) :=
  foldl_settings apply settings UpdateStep.operators UpdateStep.settingSteps
    (fun s step => by rw [apply_eq]) steps { table }

theorem table_ofSteps : (ofSteps table steps).table = table :=
  foldl_keeps apply Update.table (fun s step => by rw [apply_eq]) steps { table }

theorem assignments_ofSteps :
    (ofSteps table steps).assignments
      = setAssignments (steps.flatMap UpdateStep.givenPairs) [] := by
  -- assignments are not only added at the end, so `foldl_adds` does not apply
  have run (s : Update) : (steps.foldl apply s).assignments
      = setAssignments (steps.flatMap UpdateStep.givenPairs) s.assignments := by
    induction steps generalizing s with
    | nil => rfl
    | cons step rest ih =>
        rw [List.foldl_cons, ih, apply_eq, List.flatMap_cons]
        exact List.foldl_append.symm
  exact run { table }

theorem predicates_ofSteps :
    (ofSteps table steps).predicates = wherePredicates (steps.flatMap UpdateStep.whereSteps) := by
  rw [wherePredicates_flatMap]
  exact foldl_adds apply predicates (fun step => wherePredicates step.whereSteps)
    (fun s step => by rw [apply_eq]) steps { table }

end Update

namespace Delete

theorem filter_eq (s : Delete) (step : WhereStep) :
    s.filter step
      = { s with
          predicates := s.predicates ++ step.addedPredicates
          settings := s.settings.refuse (firstRefused step.operators) } := by
  simp only [filter, WhereStep.apply_eq]
  rfl

/-- What a step does to a delete, clause by clause. -/
theorem apply_eq (s : Delete) (step : DeleteStep) :
    s.apply step
      = { settings := step.settingSteps.foldl Settings.apply
            (s.settings.refuse (firstRefused step.operators))
          table := s.table
          predicates := s.predicates ++ wherePredicates step.whereSteps
          tail := step.tailSteps.foldl Tail.apply s.tail } := by
  cases step with
  | filter step => simp [apply, filter_eq, wherePredicates]
  | _ => simp [apply, wherePredicates]

variable (table : Table) (steps : List DeleteStep)

theorem settings_ofSteps :
    (ofSteps table steps).settings
      = (steps.flatMap DeleteStep.settingSteps).foldl Settings.apply
          (({} : Settings).refuse (firstRefused (steps.flatMap DeleteStep.operators))) :=
  foldl_settings apply settings DeleteStep.operators DeleteStep.settingSteps
    (fun s step => by rw [apply_eq]) steps { table }

theorem table_ofSteps : (ofSteps table steps).table = table :=
  foldl_keeps apply Delete.table (fun s step => by rw [apply_eq]) steps { table }

theorem predicates_ofSteps :
    (ofSteps table steps).predicates = wherePredicates (steps.flatMap DeleteStep.whereSteps) := by
  rw [wherePredicates_flatMap]
  exact foldl_adds apply predicates (fun step => wherePredicates step.whereSteps)
    (fun s step => by rw [apply_eq]) steps { table }

end Delete

/-! ## Programs -/

/-- A program takes its steps on the settings, and remembers the first operator that it refuses. -/
theorem Program.settings_statement (program : Program) :
    program.statement.settings
      = program.settingSteps.foldl Settings.apply (({} : Settings).refuse program.refused) := by
  cases program with
  | select table steps => exact Select.settings_ofSteps table steps
  | insert table steps => exact Insert.settings_ofSteps table steps
  | update table steps => exact Update.settings_ofSteps table steps
  | delete table steps => exact Delete.settings_ofSteps table steps

theorem Program.rejected_statement (program : Program) :
    program.statement.settings.rejected = program.refused := by
  rw [settings_statement, Settings.rejected_foldl]
  rfl

theorem Program.override_statement (program : Program) :
    program.statement.settings.override = program.overrides.getLast? := by
  rw [settings_statement, Settings.override_foldl]
  exact Option.or_none

end SqlBuilder
