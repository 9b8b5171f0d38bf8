import SqlBuilder.Proofs.Program

set_option autoImplicit false

/-! # Operators and overrides that callers pass

A caller passes operators to some of the steps, and fragments that take the place of the whole
statement. Here they are read off a program, without building its statement: the operators in the
order of the steps, depth-first through groups and conditions of joins but not into selects, which
are built by programs of their own. -/

namespace SqlBuilder

/-! ## Reading a program -/

mutual

/-- The operators that a caller passes in a condition, depth-first. -/
def Criteria.operators : Criteria → List String
  | .compare _ operator _ => [operator]
  | .group steps => whereOperators steps
  | _ => []

/-- The operators that a caller passes to a step that adds conditions. -/
def WhereStep.operators : WhereStep → List String
  | .matching _ criteria => criteria.operators
  | .compare _ _ operator _ => [operator]
  | .group _ steps => whereOperators steps
  | _ => []

/-- The operators that a caller passes to steps that add conditions. -/
def whereOperators : List WhereStep → List String
  | [] => []
  | step :: rest => step.operators ++ whereOperators rest

end

/-- The operators that a caller passes to a step of the condition of a join. -/
def OnStep.operators : OnStep → List String
  | .equal _ _ _ => []
  | .compare _ _ operator _ => [operator]

/-- The operators that a caller passes to a step on a select. -/
@[simp]
def SelectStep.operators : SelectStep → List String
  | .filter step => step.operators
  | .join _ _ _ operator _ => [operator]
  | .joinOn _ _ steps => steps.flatMap OnStep.operators
  | _ => []

/-- The operators that a caller passes to a step on an update. -/
@[simp]
def UpdateStep.operators : UpdateStep → List String
  | .filter step => step.operators
  | _ => []

/-- The operators that a caller passes to a step on a delete. -/
@[simp]
def DeleteStep.operators : DeleteStep → List String
  | .filter step => step.operators
  | _ => []

/-- The step that adds conditions that a step on a select is, if it is one. -/
@[simp]
def SelectStep.whereSteps : SelectStep → List WhereStep
  | .filter step => [step]
  | _ => []

/-- The step that adds conditions that a step on an update is, if it is one. -/
@[simp]
def UpdateStep.whereSteps : UpdateStep → List WhereStep
  | .filter step => [step]
  | _ => []

/-- The step that adds conditions that a step on a delete is, if it is one. -/
@[simp]
def DeleteStep.whereSteps : DeleteStep → List WhereStep
  | .filter step => [step]
  | _ => []

/-- The fragments that a step on the settings puts in place of the statement. -/
def SettingStep.overrides : SettingStep → List Fragment
  | .override fragment => [fragment]
  | _ => []

/-- The step on the settings that a step on a select is, if it is one. -/
@[simp]
def SelectStep.settingSteps : SelectStep → List SettingStep
  | .setting step => [step]
  | _ => []

/-- The step on the settings that a step on an insert is, if it is one. -/
@[simp]
def InsertStep.settingSteps : InsertStep → List SettingStep
  | .setting step => [step]
  | _ => []

/-- The step on the settings that a step on an update is, if it is one. -/
@[simp]
def UpdateStep.settingSteps : UpdateStep → List SettingStep
  | .setting step => [step]
  | _ => []

/-- The step on the settings that a step on a delete is, if it is one. -/
@[simp]
def DeleteStep.settingSteps : DeleteStep → List SettingStep
  | .setting step => [step]
  | _ => []

namespace Program

/-- The operators that a caller passes to a program, in the order of the steps and depth-first, not
looking into selects. The steps of an insert take none. -/
def operators : Program → List String
  | select _ steps => steps.flatMap SelectStep.operators
  | insert _ _ => []
  | update _ steps => steps.flatMap UpdateStep.operators
  | delete _ steps => steps.flatMap DeleteStep.operators

/-- The steps of a program on the settings of its statement. -/
def settingSteps : Program → List SettingStep
  | select _ steps => steps.flatMap SelectStep.settingSteps
  | insert _ steps => steps.flatMap InsertStep.settingSteps
  | update _ steps => steps.flatMap UpdateStep.settingSteps
  | delete _ steps => steps.flatMap DeleteStep.settingSteps

/-- The fragments that a program puts in the place of its statement, in the order of the steps. -/
def overrides (program : Program) : List Fragment :=
  program.settingSteps.flatMap SettingStep.overrides

end Program

/-! ## Operators of conditions -/

theorem whereOperators_append (first second : List WhereStep) :
    whereOperators (first ++ second) = whereOperators first ++ whereOperators second := by
  induction first with
  | nil => rfl
  | cons step rest ih => simp only [List.cons_append, whereOperators, ih, List.append_assoc]

/-- If the operators in the conditions of each step are operators of the step, then the operators in
the conditions of a run are operators of the run. -/
theorem whereOperators_flatMap_subset {ι : Type} {whereSteps : ι → List WhereStep}
    {operators : ι → List String} (each : ∀ step, whereOperators (whereSteps step) ⊆ operators step)
    (steps : List ι) :
    whereOperators (steps.flatMap whereSteps) ⊆ steps.flatMap operators := by
  induction steps with
  | nil => exact List.nil_subset _
  | cons step rest ih =>
      rw [List.flatMap_cons, whereOperators_append, List.flatMap_cons]
      intro operator mem
      rcases List.mem_append.1 mem with first | others
      · exact List.mem_append_left _ (each step first)
      · exact List.mem_append_right _ (ih others)

theorem SelectStep.whereOperators_subset (step : SelectStep) :
    whereOperators step.whereSteps ⊆ step.operators := by
  cases step with
  | filter step => simp [whereOperators]
  | _ => exact List.nil_subset _

theorem UpdateStep.whereOperators_subset (step : UpdateStep) :
    whereOperators step.whereSteps ⊆ step.operators := by
  cases step with
  | filter step => simp [whereOperators]
  | _ => exact List.nil_subset _

theorem DeleteStep.whereOperators_subset (step : DeleteStep) :
    whereOperators step.whereSteps ⊆ step.operators := by
  cases step with
  | filter step => simp [whereOperators]
  | _ => exact List.nil_subset _

/-! ## The first refused operator -/

/-- The first operator that is not on the allow-list. -/
def firstRefused (operators : List String) : Option String :=
  operators.find? fun operator => !isAllowedOperator operator

/-- The first operator that a caller passes to a program from outside the allow-list. -/
def Program.refused (program : Program) : Option String :=
  firstRefused program.operators

@[simp]
theorem firstRefused_nil : firstRefused [] = none := rfl

@[simp]
theorem firstRejected_none (refused : Option String) : firstRejected refused none = refused := by
  cases refused <;> rfl

theorem firstRejected_assoc (a b c : Option String) :
    firstRejected (firstRejected a b) c = firstRejected a (firstRejected b c) := by
  cases a <;> rfl

theorem firstRefused_append (first second : List String) :
    firstRefused (first ++ second) = firstRejected (firstRefused first) (firstRefused second) := by
  unfold firstRefused
  rw [List.find?_append]
  cases first.find? fun operator => !isAllowedOperator operator <;> rfl

theorem firstRefused_of_allowed {operator : String} (allowed : isAllowedOperator operator = true) :
    firstRefused [operator] = none := by
  simp [firstRefused, allowed]

theorem firstRefused_of_not_allowed {operator : String}
    (refused : ¬isAllowedOperator operator = true) : firstRefused [operator] = some operator := by
  simp [firstRefused, refused]

/-- Nothing is refused if and only if all operators are on the allow-list. -/
theorem firstRefused_eq_none (operators : List String) :
    firstRefused operators = none
      ↔ ∀ operator ∈ operators, isAllowedOperator operator = true := by
  unfold firstRefused
  rw [List.find?_eq_none]
  simp

end SqlBuilder
