import SqlBuilder.Steps.Settings

set_option autoImplicit false

/-! # Steps that build an update or a delete

Assignments keep the order in which their columns are first set; setting a column again replaces its
operand where it stands. -/

namespace SqlBuilder

/-! ## Updates -/

/-- A step on an update. -/
inductive UpdateStep where
  | filter (step : WhereStep)
  | tail (step : TailStep)
  | setting (step : SettingStep)
  | assign (column : String) (value : Operand)
  | assignEach (pairs : List (String × Operand))

/-- Sets a column in a list of assignments. -/
def setAssignment (column : String) (value : Operand) :
    List (String × Operand) → List (String × Operand)
  | [] => [(column, value)]
  | (c, v) :: rest =>
    if c = column then (c, value) :: rest else (c, v) :: setAssignment column value rest

namespace Update

/-- Sets a column. -/
def assign (s : Update) (column : String) (value : Operand) : Update :=
  { s with assignments := setAssignment column value s.assignments }

/-- Adds conditions. -/
def filter (s : Update) (step : WhereStep) : Update :=
  let group := step.apply (s.settings.whereGroup s.predicates)
  { s with predicates := group.predicates, settings := s.settings.afterWhere group }

/-- Takes one step. -/
def apply (s : Update) : UpdateStep → Update
  | .filter step => s.filter step
  | .tail step => { s with tail := s.tail.apply step }
  | .setting step => { s with settings := s.settings.apply step }
  | .assign column value => s.assign column value
  | .assignEach pairs => pairs.foldl (fun s pair => s.assign pair.1 pair.2) s

/-- The update that steps build. -/
def ofSteps (table : Table) (steps : List UpdateStep) : Update :=
  steps.foldl apply { table }

end Update

/-! ## Deletes -/

/-- A step on a delete. -/
inductive DeleteStep where
  | filter (step : WhereStep)
  | tail (step : TailStep)
  | setting (step : SettingStep)

namespace Delete

/-- Adds conditions. -/
def filter (s : Delete) (step : WhereStep) : Delete :=
  let group := step.apply (s.settings.whereGroup s.predicates)
  { s with predicates := group.predicates, settings := s.settings.afterWhere group }

/-- Takes one step. -/
def apply (s : Delete) : DeleteStep → Delete
  | .filter step => s.filter step
  | .tail step => { s with tail := s.tail.apply step }
  | .setting step => { s with settings := s.settings.apply step }

/-- The delete that steps build. -/
def ofSteps (table : Table) (steps : List DeleteStep) : Delete :=
  steps.foldl apply { table }

end Delete

end SqlBuilder
