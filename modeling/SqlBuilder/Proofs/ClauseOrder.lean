import SqlBuilder.Proofs.Detached.Steps
import SqlBuilder.Proofs.Precedence

set_option autoImplicit false

/-! # The order of steps on different clauses

Every step is about one clause of the statement, or only about its handle or debug flag. What a
program builds depends on the steps on each clause and their order, but neither on how the steps on
different clauses are interleaved nor on handles and flags, also those of the selects that are
supplied to the steps. Only which of several refused operators is reported depends on the whole
order. -/

namespace SqlBuilder

/-! ## The clause of a step -/

/-- The clauses of the four kinds of statement, as far as steps can change them. -/
inductive StepClause where
  | selectList
  | joins
  | conditions
  | groupBy
  | orderBy
  | limit
  | distinct
  | override
  /-- Columns and rows of an insert: the rows may supply the columns. -/
  | rows
  | ignore
  | duplicates
  | assignments
deriving DecidableEq, Repr

/-- The clause that a step on the settings changes, if it changes one. -/
def SettingStep.clause : SettingStep → Option StepClause
  | .override _ => some .override
  | .debug _ => none
  | .attach _ => none

/-- The clause that a step on the order or the limit of rows changes. -/
def TailStep.clause : TailStep → StepClause
  | .orderBy _ => .orderBy
  | .orderByDescending _ => .orderBy
  | .orderByDirection _ _ => .orderBy
  | .orderByEach _ => .orderBy
  | .limit _ => .limit
  | .limitOffset _ _ => .limit

/-- The clause that a step on a select changes, if it changes one. -/
def SelectStep.clause : SelectStep → Option StepClause
  | .filter _ => some .conditions
  | .tail step => some step.clause
  | .setting step => step.clause
  | .column _ => some .selectList
  | .columnAs _ _ => some .selectList
  | .columns _ => some .selectList
  | .columnsAs _ => some .selectList
  | .distinct _ => some .distinct
  | .count => some .selectList
  | .countOf _ _ => some .selectList
  | .groupBy _ => some .groupBy
  | .groupByEach _ => some .groupBy
  | .join _ _ _ _ _ => some .joins
  | .joinEqual _ _ _ _ => some .joins
  | .joinOn _ _ _ => some .joins

/-- The clause that a step on an insert changes. Rows and columns share one, as rows can bring
columns with them. -/
def InsertStep.clause : InsertStep → Option StepClause
  | .setting step => step.clause
  | .columns _ => some .rows
  | .values _ => some .rows
  | .valuesEach _ => some .rows
  | .named _ => some .rows
  | .namedEach _ => some .rows
  | .ignore _ => some .ignore
  | .onDuplicate _ _ => some .duplicates
  | .onDuplicateEach _ => some .duplicates
  | .onDuplicateValues _ => some .duplicates

/-- The clause that a step on an update changes, if it changes one. -/
def UpdateStep.clause : UpdateStep → Option StepClause
  | .filter _ => some .conditions
  | .tail step => some step.clause
  | .setting step => step.clause
  | .assign _ _ => some .assignments
  | .assignEach _ => some .assignments

/-- The clause that a step on a delete changes, if it changes one. -/
def DeleteStep.clause : DeleteStep → Option StepClause
  | .filter _ => some .conditions
  | .tail step => some step.clause
  | .setting step => step.clause

/-! ## Runs that agree clause by clause -/

/-- The steps of a run on one clause, with detached selects. -/
def stepsOn {ι : Type} (clause : ι → Option StepClause) (detached : ι → ι) (c : StepClause)
    (steps : List ι) : List ι :=
  (steps.filter fun step => clause step = some c).map detached

/-- Two runs agree on every clause: their steps on it are the same and come in the same order, but
for the handles and flags of the selects that they are given. -/
def AgreeOn {ι : Type} (clause : ι → Option StepClause) (detached : ι → ι) (steps steps' : List ι) :
    Prop :=
  ∀ c : StepClause, stepsOn clause detached c steps = stepsOn clause detached c steps'

/-- Two runs are the same but for debug flags and handles: their steps on clauses are the same in the
same order, but for the handles and flags of the selects that they are given. -/
def SameButAttached {ι : Type} (clause : ι → Option StepClause) (detached : ι → ι)
    (steps steps' : List ι) : Prop :=
  (steps.filter fun step => (clause step).isSome).map detached
    = (steps'.filter fun step => (clause step).isSome).map detached

/-- Two programs of one kind on the same table whose runs are related. -/
inductive Program.Along
    (runs : {ι : Type} → (ι → Option StepClause) → (ι → ι) → List ι → List ι → Prop) :
    Program → Program → Prop
  | select {table table' : Table} {steps steps' : List SelectStep}
      (tables : table.detached = table'.detached)
      (related : runs SelectStep.clause SelectStep.detached steps steps') :
      Along runs (.select table steps) (.select table' steps')
  | insert {table table' : Table} {steps steps' : List InsertStep}
      (tables : table.detached = table'.detached)
      (related : runs InsertStep.clause InsertStep.detached steps steps') :
      Along runs (.insert table steps) (.insert table' steps')
  | update {table table' : Table} {steps steps' : List UpdateStep}
      (tables : table.detached = table'.detached)
      (related : runs UpdateStep.clause UpdateStep.detached steps steps') :
      Along runs (.update table steps) (.update table' steps')
  | delete {table table' : Table} {steps steps' : List DeleteStep}
      (tables : table.detached = table'.detached)
      (related : runs DeleteStep.clause DeleteStep.detached steps steps') :
      Along runs (.delete table steps) (.delete table' steps')

section Runs

variable {ι : Type} {clause : ι → Option StepClause} {detached : ι → ι} {steps steps' : List ι}

theorem stepsOn_cons_of_on {c : StepClause} {step : ι} (on : clause step = some c)
    (rest : List ι) :
    stepsOn clause detached c (step :: rest) = detached step :: stepsOn clause detached c rest := by
  rw [stepsOn, List.filter_cons_of_pos (by simpa using on), List.map_cons, stepsOn]

theorem stepsOn_cons_of_off {c : StepClause} {step : ι} (off : clause step ≠ some c)
    (rest : List ι) :
    stepsOn clause detached c (step :: rest) = stepsOn clause detached c rest := by
  rw [stepsOn, List.filter_cons_of_neg (by simpa using off), stepsOn]

namespace AgreeOn

theorem symm (agree : AgreeOn clause detached steps steps') :
    AgreeOn clause detached steps' steps :=
  fun c => (agree c).symm

/-- What the steps on one clause contribute is contributed in the same order by runs that agree. -/
theorem map_flatMap {β : Type} (agree : AgreeOn clause detached steps steps') (c : StepClause)
    {part : ι → List β} {f : β → β} (elsewhere : ∀ step, clause step ≠ some c → part step = [])
    (commutes : ∀ step, part (detached step) = (part step).map f) :
    (steps.flatMap part).map f = (steps'.flatMap part).map f := by
  have own (run : List ι) :
      (run.flatMap part).map f = (stepsOn clause detached c run).flatMap part := by
    induction run with
    | nil => rfl
    | cons step rest ih =>
        rw [List.flatMap_cons, List.map_append, ih]
        by_cases on : clause step = some c
        · rw [stepsOn_cons_of_on on, List.flatMap_cons, commutes]
        · rw [stepsOn_cons_of_off on, elsewhere step on, List.map_nil, List.nil_append]
  rw [own steps, own steps', agree c]

/-- A contribution that has no selects in it. -/
theorem flatMap {β : Type} (agree : AgreeOn clause detached steps steps') (c : StepClause)
    (part : ι → List β) (elsewhere : ∀ step, clause step ≠ some c → part step = [])
    (commutes : ∀ step, part (detached step) = part step) :
    steps.flatMap part = steps'.flatMap part := by
  have same := agree.map_flatMap c (f := id) elsewhere fun step => by rw [commutes, List.map_id]
  rwa [List.map_id, List.map_id] at same

/-- The steps on one clause take it to the same state in runs that agree. -/
theorem foldl {σ : Type} (agree : AgreeOn clause detached steps steps') (c : StepClause)
    (apply : σ → ι → σ) (elsewhere : ∀ s step, clause step ≠ some c → apply s step = s)
    (commutes : ∀ s step, apply s (detached step) = apply s step) (s : σ) :
    steps.foldl apply s = steps'.foldl apply s := by
  have own (run : List ι) (s : σ) :
      run.foldl apply s = (stepsOn clause detached c run).foldl apply s := by
    induction run generalizing s with
    | nil => rfl
    | cons step rest ih =>
        rw [List.foldl_cons, ih]
        by_cases on : clause step = some c
        · rw [stepsOn_cons_of_on on, List.foldl_cons, commutes]
        · rw [stepsOn_cons_of_off on, elsewhere s step on]
  rw [own steps, own steps', agree c]

/-- A step on a clause has a step in the other run that is the same but for handles and flags. -/
theorem mem (agree : AgreeOn clause detached steps steps') {step : ι} (mem : step ∈ steps)
    {c : StepClause} (on : clause step = some c) :
    ∃ step' ∈ steps', detached step' = detached step := by
  have image : detached step ∈ stepsOn clause detached c steps :=
    List.mem_map_of_mem (List.mem_filter.2 ⟨mem, by simpa using on⟩)
  rw [agree c] at image
  obtain ⟨step', filtered, same⟩ := List.mem_map.1 image
  exact ⟨step', (List.mem_filter.1 filtered).1, same⟩

/-- Runs that agree are passed the same operators, though perhaps not in the same order. -/
theorem operators_subset (agree : AgreeOn clause detached steps steps')
    {operators : ι → List String} (elsewhere : ∀ step, clause step = none → operators step = [])
    (kept : ∀ step, operators (detached step) = operators step) :
    steps.flatMap operators ⊆ steps'.flatMap operators := by
  intro operator passed
  obtain ⟨step, mem, own⟩ := List.mem_flatMap.1 passed
  cases on : clause step with
  | none =>
      rw [elsewhere step on] at own
      exact absurd own List.not_mem_nil
  | some c =>
      obtain ⟨step', mem', same⟩ := agree.mem mem on
      rw [← kept, ← same, kept] at own
      exact List.mem_flatMap.2 ⟨step', mem', own⟩

end AgreeOn

/-- A clause that every step takes through steps of its own is taken through all of them by a run. -/
theorem foldl_through {σ τ κ : Type} (apply : σ → ι → σ) (clause : σ → τ) {own : ι → List κ}
    {change : τ → κ → τ}
    (each : ∀ s step, clause (apply s step) = (own step).foldl change (clause s))
    (steps : List ι) (s : σ) :
    clause (steps.foldl apply s) = (steps.flatMap own).foldl change (clause s) := by
  induction steps generalizing s with
  | nil => rfl
  | cons step rest ih => rw [List.foldl_cons, ih, each, List.flatMap_cons, List.foldl_append]

/-- A flag that some of the steps set is what the last of them sets. -/
theorem foldl_flag {σ : Type} (apply : σ → ι → σ) (flag : σ → Bool) {own : ι → Option Bool}
    (each : ∀ s step, flag (apply s step) = (own step).getD (flag s)) (steps : List ι) (s : σ) :
    flag (steps.foldl apply s)
      = (steps.flatMap fun step => (own step).toList).getLastD (flag s) := by
  induction steps generalizing s with
  | nil => rfl
  | cons step rest ih =>
      rw [List.foldl_cons, ih, each, List.flatMap_cons]
      cases own step with
      | none => rfl
      | some b => exact List.getLastD_cons.symm

end Runs

/-! ## The order and the limit of rows -/

/-- The columns to sort by that a step adds. -/
def TailStep.addedOrder : TailStep → List OrderItem
  | .orderBy column => [⟨column, .ascending⟩]
  | .orderByDescending column => [⟨column, .descending⟩]
  | .orderByDirection column direction => [⟨column, direction⟩]
  | .orderByEach items => items.map fun item => ⟨item.1, item.2⟩
  | .limit _ => []
  | .limitOffset _ _ => []

/-- The limit that a step sets. -/
def TailStep.limits : TailStep → List Limit
  | .limit count => [{ count := some count }]
  | .limitOffset count offset => [⟨some count, some offset⟩]
  | _ => []

namespace Tail

theorem foldl_sortBy (items : List (String × Direction)) (tail : Tail) :
    items.foldl (fun tail item => tail.sortBy item.1 item.2) tail
      = { tail with orderBy := tail.orderBy ++ items.map fun item => ⟨item.1, item.2⟩ } := by
  induction items generalizing tail with
  | nil => simp
  | cons item rest ih =>
      rw [List.foldl_cons, ih, sortBy]
      simp

theorem orderBy_apply (tail : Tail) (step : TailStep) :
    (tail.apply step).orderBy = tail.orderBy ++ step.addedOrder := by
  cases step with
  | orderByEach items => rw [apply, foldl_sortBy, TailStep.addedOrder]
  | limit count => exact (List.append_nil _).symm
  | limitOffset count offset => exact (List.append_nil _).symm
  | _ => rfl

theorem limit_apply (tail : Tail) (step : TailStep) :
    (tail.apply step).limit = step.limits.getLast?.or tail.limit := by
  cases step with
  | orderByEach items =>
      rw [apply, foldl_sortBy]
      rfl
  | _ => rfl

/-- Columns to sort by add up, and of several limits the last one counts. -/
theorem foldl_apply (steps : List TailStep) (tail : Tail) :
    steps.foldl apply tail
      = ⟨tail.orderBy ++ steps.flatMap TailStep.addedOrder,
          (steps.flatMap TailStep.limits).getLast?.or tail.limit⟩ := by
  induction steps generalizing tail with
  | nil =>
      rw [List.flatMap_nil, List.append_nil]
      rfl
  | cons step rest ih =>
      rw [List.foldl_cons, ih, orderBy_apply, limit_apply, List.flatMap_cons, List.flatMap_cons,
        List.append_assoc, List.getLast?_append, Option.or_assoc]

end Tail

/-- Rows in the order that steps on it add up to, and the last limit that they set. -/
def tailOf (steps : List TailStep) : Tail :=
  ⟨steps.flatMap TailStep.addedOrder, (steps.flatMap TailStep.limits).getLast?⟩

theorem foldl_tail (steps : List TailStep) : steps.foldl Tail.apply {} = tailOf steps := by
  rw [Tail.foldl_apply, tailOf, List.nil_append, Option.or_none]

theorem TailStep.addedOrder_of_other {step : TailStep} (other : step.clause ≠ .orderBy) :
    step.addedOrder = [] := by
  cases step <;> simp_all [clause, addedOrder]

theorem TailStep.limits_of_other {step : TailStep} (other : step.clause ≠ .limit) :
    step.limits = [] := by
  cases step <;> simp_all [clause, limits]

/-! ## Settings -/

theorem SettingStep.overrides_of_other {step : SettingStep}
    (other : step.clause ≠ some .override) : step.overrides = [] := by
  cases step <;> simp_all [clause, overrides]

/-- Only the last override and the first refused operator are left of detached settings. -/
theorem Settings.detached_foldl (steps : List SettingStep) (refused : Option String) :
    (steps.foldl apply (({} : Settings).refuse refused)).detached
      = { override := (steps.flatMap SettingStep.overrides).getLast?, rejected := refused } := by
  rw [detached, override_foldl, rejected_foldl]
  simp [refuse, firstRejected]

/-! ## Clauses that several kinds of statement have -/

namespace AgreeOn

variable {ι : Type} {clause : ι → Option StepClause} {detached : ι → ι} {steps steps' : List ι}

theorem settings (agree : AgreeOn clause detached steps steps') (own : ι → List SettingStep)
    (each : ∀ step, ∀ change ∈ own step, change.clause = clause step)
    (kept : ∀ step, own (detached step) = own step) (refused : Option String) :
    ((steps.flatMap own).foldl Settings.apply (({} : Settings).refuse refused)).detached
      = ((steps'.flatMap own).foldl Settings.apply (({} : Settings).refuse refused)).detached := by
  have overrides := agree.flatMap .override
    (fun step => (own step).flatMap SettingStep.overrides)
    (fun step other => List.flatMap_eq_nil_iff.2 fun change mem =>
      SettingStep.overrides_of_other (each step change mem ▸ other))
    (fun step => by rw [kept])
  rw [Settings.detached_foldl, Settings.detached_foldl, List.flatMap_assoc, List.flatMap_assoc,
    overrides]

theorem tail (agree : AgreeOn clause detached steps steps') (own : ι → List TailStep)
    (each : ∀ step, ∀ change ∈ own step, clause step = some change.clause)
    (kept : ∀ step, own (detached step) = own step) :
    tailOf (steps.flatMap own) = tailOf (steps'.flatMap own) := by
  have other {step : ι} {c : StepClause} (other : clause step ≠ some c) :
      ∀ change ∈ own step, change.clause ≠ c := by
    intro change mem same
    exact other (same ▸ each step change mem)
  have order := agree.flatMap .orderBy
    (fun step => (own step).flatMap TailStep.addedOrder)
    (fun step elsewhere => List.flatMap_eq_nil_iff.2 fun change mem =>
      TailStep.addedOrder_of_other (other elsewhere change mem))
    (fun step => by rw [kept])
  have limits := agree.flatMap .limit (fun step => (own step).flatMap TailStep.limits)
    (fun step elsewhere => List.flatMap_eq_nil_iff.2 fun change mem =>
      TailStep.limits_of_other (other elsewhere change mem))
    (fun step => by rw [kept])
  rw [tailOf, tailOf, List.flatMap_assoc, List.flatMap_assoc, List.flatMap_assoc,
    List.flatMap_assoc, order, limits]

theorem predicates (agree : AgreeOn clause detached steps steps') (own : ι → List WhereStep)
    (elsewhere : ∀ step, clause step ≠ some .conditions → own step = [])
    (commutes : ∀ step, own (detached step) = (own step).map WhereStep.detached) :
    (wherePredicates (steps.flatMap own)).map Predicate.detached
      = (wherePredicates (steps'.flatMap own)).map Predicate.detached := by
  rw [← wherePredicates_detached, ← wherePredicates_detached, detachedWhere_eq_map,
    detachedWhere_eq_map, agree.map_flatMap .conditions elsewhere commutes]

end AgreeOn

/-! ## Statements of runs that agree -/

namespace Select

theorem detached_eq (s : Select) :
    s.detached
      = { settings := s.settings.detached
          table := s.table.detached
          columns := s.columns.map Column.detached
          distinct := s.distinct
          joins := s.joins.map Join.detached
          predicates := s.predicates.map Predicate.detached
          groupBy := s.groupBy
          tail := s.tail } := by
  cases s
  rw [detached, detachedColumns_eq_map, detachedJoins_eq_map, detachedPredicates_eq_map]

section Clauses

variable (table : Table) (steps : List SelectStep)

theorem distinct_ofSteps :
    (ofSteps table steps).distinct
      = (steps.flatMap fun step => step.distinctFlag.toList).getLastD false :=
  foldl_flag apply distinct (fun s step => by rw [apply_eq]) steps (ofTable table)

theorem groupBy_ofSteps : (ofSteps table steps).groupBy = steps.flatMap SelectStep.addedGroups :=
  foldl_adds apply groupBy SelectStep.addedGroups (fun s step => by rw [apply_eq]) steps
    (ofTable table)

theorem tail_ofSteps :
    (ofSteps table steps).tail = tailOf (steps.flatMap SelectStep.tailSteps) := by
  rw [← foldl_tail]
  exact foldl_through apply tail (fun s step => by rw [apply_eq]) steps (ofTable table)

end Clauses

/-- Runs that agree on every clause and refuse the same operator first build the same select, but for
handles and flags. -/
theorem detached_of_agree {table table' : Table} {steps steps' : List SelectStep}
    (tables : table.detached = table'.detached)
    (agree : AgreeOn SelectStep.clause SelectStep.detached steps steps')
    (refused : firstRefused (steps.flatMap SelectStep.operators)
      = firstRefused (steps'.flatMap SelectStep.operators)) :
    (ofSteps table steps).detached = (ofSteps table' steps').detached := by
  have settings := agree.settings SelectStep.settingSteps
    (fun step => by cases step <;> simp [SelectStep.clause])
    (fun step => by cases step <;> rfl)
  have columns := agree.map_flatMap .selectList
    (fun step other => by cases step <;> simp_all [SelectStep.clause])
    SelectStep.addedColumns_detached
  have flags := agree.flatMap .distinct (fun step => step.distinctFlag.toList)
    (fun step other => by cases step <;> simp_all [SelectStep.clause])
    (fun step => by cases step <;> rfl)
  have joins := agree.map_flatMap .joins
    (fun step other => by cases step <;> simp_all [SelectStep.clause])
    SelectStep.addedJoins_detached
  have predicates := agree.predicates SelectStep.whereSteps
    (fun step other => by cases step <;> simp_all [SelectStep.clause])
    (fun step => by cases step <;> rfl)
  have groups := agree.flatMap .groupBy SelectStep.addedGroups
    (fun step other => by cases step <;> simp_all [SelectStep.clause])
    (fun step => by cases step <;> rfl)
  have tails := agree.tail SelectStep.tailSteps
    (fun step => by cases step <;> simp [SelectStep.clause])
    (fun step => by cases step <;> rfl)
  simp only [detached_eq, settings_ofSteps, table_ofSteps, columns_ofSteps, distinct_ofSteps,
    joins_ofSteps, predicates_ofSteps, groupBy_ofSteps, tail_ofSteps, tables, refused, settings,
    columns, flags, joins, predicates, groups, tails]

end Select

namespace Insert

section Clauses

variable (table : Table) (steps : List InsertStep)

theorem columns_ofSteps :
    (ofSteps table steps).columns = steps.foldl InsertStep.columnList [] := by
  have run (s : Insert) :
      (steps.foldl apply s).columns = steps.foldl InsertStep.columnList s.columns := by
    induction steps generalizing s with
    | nil => rfl
    | cons step rest ih => rw [List.foldl_cons, ih, apply_eq, List.foldl_cons]
  exact run { table }

theorem ignore_ofSteps :
    (ofSteps table steps).ignore
      = (steps.flatMap fun step => step.ignoreFlag.toList).getLastD false :=
  foldl_flag apply Insert.ignore (fun s step => by rw [apply_eq]) steps { table }

end Clauses

/-- Runs that agree on every clause build the same insert, but for handles and flags. -/
theorem detached_of_agree {table table' : Table} {steps steps' : List InsertStep}
    (tables : table.detached = table'.detached)
    (agree : AgreeOn InsertStep.clause InsertStep.detached steps steps') :
    (ofSteps table steps).detached = (ofSteps table' steps').detached := by
  have settings := agree.settings InsertStep.settingSteps
    (fun step => by cases step <;> simp [InsertStep.clause])
    (fun step => by cases step <;> rfl) none
  have columns := agree.foldl .rows InsertStep.columnList
    (fun names step other => by cases step <;> simp_all [InsertStep.clause])
    (fun names step => step.columnList_detached names) []
  have rows := agree.map_flatMap .rows
    (fun step other => by cases step <;> simp_all [InsertStep.clause])
    InsertStep.givenRows_detached
  have duplicates := agree.map_flatMap .duplicates
    (fun step other => by cases step <;> simp_all [InsertStep.clause])
    InsertStep.addedDuplicates_detached
  have flags := agree.flatMap .ignore (fun step => step.ignoreFlag.toList)
    (fun step other => by cases step <;> simp_all [InsertStep.clause])
    (fun step => by cases step <;> rfl)
  rw [Settings.refuse_none] at settings
  simp only [detached, settings_ofSteps, table_ofSteps, columns_ofSteps, rows_ofSteps,
    duplicates_ofSteps, ignore_ofSteps, ← filledRows_detached, tables, settings, columns, rows,
    duplicates, flags]

end Insert

namespace Update

section Clauses

variable (table : Table) (steps : List UpdateStep)

theorem tail_ofSteps :
    (ofSteps table steps).tail = tailOf (steps.flatMap UpdateStep.tailSteps) := by
  rw [← foldl_tail]
  exact foldl_through apply tail (fun s step => by rw [apply_eq]) steps { table }

end Clauses

/-- Runs that agree on every clause and refuse the same operator first build the same update, but for
handles and flags. -/
theorem detached_of_agree {table table' : Table} {steps steps' : List UpdateStep}
    (tables : table.detached = table'.detached)
    (agree : AgreeOn UpdateStep.clause UpdateStep.detached steps steps')
    (refused : firstRefused (steps.flatMap UpdateStep.operators)
      = firstRefused (steps'.flatMap UpdateStep.operators)) :
    (ofSteps table steps).detached = (ofSteps table' steps').detached := by
  have settings := agree.settings UpdateStep.settingSteps
    (fun step => by cases step <;> simp [UpdateStep.clause])
    (fun step => by cases step <;> rfl)
  have pairs := agree.map_flatMap .assignments
    (fun step other => by cases step <;> simp_all [UpdateStep.clause])
    UpdateStep.givenPairs_detached
  have assignments : detachedPairs (setAssignments (steps.flatMap UpdateStep.givenPairs) [])
      = detachedPairs (setAssignments (steps'.flatMap UpdateStep.givenPairs) []) := by
    rw [← setAssignments_detached, ← setAssignments_detached]
    exact congrArg (setAssignments · _) pairs
  have predicates := agree.predicates UpdateStep.whereSteps
    (fun step other => by cases step <;> simp_all [UpdateStep.clause])
    (fun step => by cases step <;> rfl)
  have tails := agree.tail UpdateStep.tailSteps
    (fun step => by cases step <;> simp [UpdateStep.clause])
    (fun step => by cases step <;> rfl)
  simp only [detached, settings_ofSteps, table_ofSteps, assignments_ofSteps, predicates_ofSteps,
    tail_ofSteps, tables, refused, settings, assignments, predicates, tails]

end Update

namespace Delete

section Clauses

variable (table : Table) (steps : List DeleteStep)

theorem tail_ofSteps :
    (ofSteps table steps).tail = tailOf (steps.flatMap DeleteStep.tailSteps) := by
  rw [← foldl_tail]
  exact foldl_through apply tail (fun s step => by rw [apply_eq]) steps { table }

end Clauses

/-- Runs that agree on every clause and refuse the same operator first build the same delete, but for
handles and flags. -/
theorem detached_of_agree {table table' : Table} {steps steps' : List DeleteStep}
    (tables : table.detached = table'.detached)
    (agree : AgreeOn DeleteStep.clause DeleteStep.detached steps steps')
    (refused : firstRefused (steps.flatMap DeleteStep.operators)
      = firstRefused (steps'.flatMap DeleteStep.operators)) :
    (ofSteps table steps).detached = (ofSteps table' steps').detached := by
  have settings := agree.settings DeleteStep.settingSteps
    (fun step => by cases step <;> simp [DeleteStep.clause])
    (fun step => by cases step <;> rfl)
  have predicates := agree.predicates DeleteStep.whereSteps
    (fun step other => by cases step <;> simp_all [DeleteStep.clause])
    (fun step => by cases step <;> rfl)
  have tails := agree.tail DeleteStep.tailSteps
    (fun step => by cases step <;> simp [DeleteStep.clause])
    (fun step => by cases step <;> rfl)
  simp only [detached, settings_ofSteps, table_ofSteps, predicates_ofSteps, tail_ofSteps, tables,
    refused, settings, predicates, tails]

end Delete

/-! ## Programs that agree -/

section Attached

variable {ι : Type} {clause : ι → Option StepClause} {detached : ι → ι} {steps steps' : List ι}

/-- Runs that are the same but for flags and handles agree on every clause. -/
theorem SameButAttached.agree (same : SameButAttached clause detached steps steps')
    (kept : ∀ step, clause (detached step) = clause step) :
    AgreeOn clause detached steps steps' := by
  intro c
  have own (run : List ι) : stepsOn clause detached c run
      = ((run.filter fun step => (clause step).isSome).map detached).filter
          fun step => clause step = some c := by
    rw [stepsOn, List.filter_map, List.filter_filter]
    congr 1
    refine List.filter_congr fun step _ => ?_
    rw [Function.comp_apply, kept]
    cases clause step <;> simp
  rw [own steps, own steps', same]

/-- They are even passed the same operators in the same order. -/
theorem SameButAttached.operators (same : SameButAttached clause detached steps steps')
    {operators : ι → List String} (elsewhere : ∀ step, clause step = none → operators step = [])
    (kept : ∀ step, operators (detached step) = operators step) :
    steps.flatMap operators = steps'.flatMap operators := by
  have own (run : List ι) : run.flatMap operators
      = ((run.filter fun step => (clause step).isSome).map detached).flatMap operators := by
    induction run with
    | nil => rfl
    | cons step rest ih =>
        cases on : clause step with
        | none => simp [on, elsewhere step on, ih]
        | some c => simp [on, kept, ih]
  rw [own steps, own steps', same]

end Attached

theorem SelectStep.operators_of_none (step : SelectStep) (off : step.clause = none) :
    step.operators = [] := by
  cases step <;> simp_all [clause]

theorem UpdateStep.operators_of_none (step : UpdateStep) (off : step.clause = none) :
    step.operators = [] := by
  cases step <;> simp_all [clause]

theorem DeleteStep.operators_of_none (step : DeleteStep) (off : step.clause = none) :
    step.operators = [] := by
  cases step <;> simp_all [clause]

namespace Program

variable {p q : Program}

/-- Programs that agree on every clause, however their steps are interleaved. -/
def Agree : Program → Program → Prop :=
  Along AgreeOn

/-- Programs that are the same but for steps that set debug flags or attach handles, and for the
handles and flags of the selects that they are given. -/
def Reattached : Program → Program → Prop :=
  Along SameButAttached

theorem Agree.symm (same : p.Agree q) : q.Agree p := by
  cases same with
  | select tables agree => exact .select tables.symm (AgreeOn.symm agree)
  | insert tables agree => exact .insert tables.symm (AgreeOn.symm agree)
  | update tables agree => exact .update tables.symm (AgreeOn.symm agree)
  | delete tables agree => exact .delete tables.symm (AgreeOn.symm agree)

theorem Reattached.agree (same : p.Reattached q) : p.Agree q := by
  cases same with
  | select tables same => exact .select tables (same.agree fun step => by cases step <;> rfl)
  | insert tables same => exact .insert tables (same.agree fun step => by cases step <;> rfl)
  | update tables same => exact .update tables (same.agree fun step => by cases step <;> rfl)
  | delete tables same => exact .delete tables (same.agree fun step => by cases step <;> rfl)

/-- Programs that agree are passed the same operators, though perhaps not in the same order. -/
theorem Agree.operators_subset (same : p.Agree q) : p.operators ⊆ q.operators := by
  cases same with
  | select tables agree =>
      exact agree.operators_subset SelectStep.operators_of_none SelectStep.operators_detached
  | insert tables agree => exact List.nil_subset _
  | update tables agree =>
      exact agree.operators_subset UpdateStep.operators_of_none UpdateStep.operators_detached
  | delete tables agree =>
      exact agree.operators_subset DeleteStep.operators_of_none DeleteStep.operators_detached

theorem Reattached.operators_eq (same : p.Reattached q) : p.operators = q.operators := by
  cases same with
  | select tables same =>
      exact same.operators SelectStep.operators_of_none SelectStep.operators_detached
  | insert tables same => rfl
  | update tables same =>
      exact same.operators UpdateStep.operators_of_none UpdateStep.operators_detached
  | delete tables same =>
      exact same.operators DeleteStep.operators_of_none DeleteStep.operators_detached

/-- Programs that agree and refuse the same operator first build the same statement, but for handles
and flags. -/
theorem Agree.detached_statement (same : p.Agree q) (refused : p.refused = q.refused) :
    p.statement.detached = q.statement.detached := by
  cases same with
  | select tables agree =>
      exact congrArg Statement.select (Select.detached_of_agree tables agree refused)
  | insert tables agree =>
      exact congrArg Statement.insert (Insert.detached_of_agree tables agree)
  | update tables agree =>
      exact congrArg Statement.update (Update.detached_of_agree tables agree refused)
  | delete tables agree =>
      exact congrArg Statement.delete (Delete.detached_of_agree tables agree refused)

/-- A program that is passed an operator from outside the allow-list fails with one. -/
theorem build_of_not_allowed {operator : String} (passed : operator ∈ p.operators)
    (refused : ¬isAllowedOperator operator = true) :
    ∃ first ∈ p.operators, p.statement.build = .error (.operatorNotAllowed first) := by
  cases found : p.refused with
  | none => exact absurd ((firstRefused_eq_none p.operators).1 found operator passed) refused
  | some first =>
      exact ⟨first, List.mem_of_find?_eq_some found,
        Statement.build_of_rejected (p.rejected_statement.trans found)⟩

/-- However the steps on different clauses are interleaved, a program builds the same if it is passed
allowed operators only, and otherwise fails with one that is not allowed. Steps that set debug flags
or attach handles, in the program or in the programs of the selects inside it, change nothing. -/
theorem build_clause_order (p q : Program) :
    (p.Agree q → (∀ operator ∈ p.operators, isAllowedOperator operator = true) →
      p.statement.build = q.statement.build)
    ∧ (p.Agree q → (∃ operator ∈ p.operators, ¬isAllowedOperator operator = true) →
      (∃ operator ∈ p.operators, p.statement.build = .error (.operatorNotAllowed operator))
      ∧ ∃ operator ∈ q.operators, q.statement.build = .error (.operatorNotAllowed operator))
    ∧ (p.Reattached q → p.statement.detached = q.statement.detached
      ∧ p.statement.build = q.statement.build) := by
  refine ⟨?clauses, ?refusal, ?attached⟩
  case clauses =>
    intro same allowed
    have accepted : p.refused = none := (firstRefused_eq_none p.operators).2 allowed
    have accepted' : q.refused = none :=
      (firstRefused_eq_none q.operators).2 fun operator mem =>
        allowed operator (same.symm.operators_subset mem)
    exact Statement.build_of_detached
      (same.detached_statement (accepted.trans accepted'.symm))
  case refusal =>
    rintro same ⟨operator, mem, refused⟩
    exact ⟨build_of_not_allowed mem refused,
      build_of_not_allowed (same.operators_subset mem) refused⟩
  case attached =>
    intro same
    have detached := same.agree.detached_statement (congrArg firstRefused same.operators_eq)
    exact ⟨detached, Statement.build_of_detached detached⟩

/-- A select with a subquery, whose steps are interleaved in two ways: once without flags, and once
with flags and a handle on it and on the subquery. The steps that refuse an operator come in different
orders too, and so different operators are reported. -/
theorem build_clause_order_interleaved :
    let inner := Select.ofSteps (.named "u") [.column (.name "x"), .distinct true]
    let tagged := Select.ofSteps (.named "u")
      [.setting (.debug true), .column (.name "x"), .setting (.attach ⟨some 80⟩), .distinct true]
    let plain := Program.select (.named "t")
      [.column (.name "a"), .filter (.inQuery .and "b" inner), .tail (.limit 1),
        .filter (.equal .or "c" (.value (.int 1))), .column (.name "d"), .tail (.limit 2)]
    let mixed := Program.select (.named "t")
      [.tail (.limit 1), .setting (.debug true), .filter (.inQuery .and "b" tagged),
        .column (.name "a"), .tail (.limit 2), .column (.name "d"),
        .filter (.equal .or "c" (.value (.int 1))), .setting (.attach ⟨some 80⟩)]
    let first := Program.select (.named "t")
      [.filter (.compare .and "a" "~" (.value .null)),
        .join .inner (.named "u") "x" "^" (.column "y")]
    let second := Program.select (.named "t")
      [.join .inner (.named "u") "x" "^" (.column "y"),
        .filter (.compare .and "a" "~" (.value .null))]
    inner.detached = tagged.detached
      ∧ plain.Agree mixed ∧ plain.statement.build = mixed.statement.build
      ∧ first.Agree second
      ∧ first.refused = some "~" ∧ second.refused = some "^"
      ∧ (∃ operator ∈ first.operators,
          first.statement.build = .error (.operatorNotAllowed operator))
      ∧ ∃ operator ∈ second.operators,
          second.statement.build = .error (.operatorNotAllowed operator) := by
  intro inner tagged plain mixed first second
  have alike : Program.Reattached
      (.select (.named "u") [.column (.name "x"), .distinct true])
      (.select (.named "u") [.setting (.debug true), .column (.name "x"),
        .setting (.attach ⟨some 80⟩), .distinct true]) := .select rfl rfl
  have nested : inner.detached = tagged.detached :=
    Statement.select.inj ((build_clause_order _ _).2.2 alike).1
  have agree : plain.Agree mixed := by
    refine .select rfl fun c => ?_
    cases c <;> simp [stepsOn, SelectStep.clause, TailStep.clause, SettingStep.clause,
      SelectStep.detached, WhereStep.detached, nested]
  have refusing : first.Agree second := by
    refine .select rfl fun c => ?_
    cases c <;> rfl
  have refused := (build_clause_order first second).2.1 refusing
    ⟨"~", List.mem_cons_self, by decide⟩
  exact ⟨nested, agree, (build_clause_order plain mixed).1 agree (by decide), refusing, by decide,
    by decide, refused.1, refused.2⟩

end Program

end SqlBuilder
