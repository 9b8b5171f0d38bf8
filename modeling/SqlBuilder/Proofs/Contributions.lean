import SqlBuilder.Proofs.Operators

set_option autoImplicit false

/-! # What steps contribute

A step does not look at what the steps before it have done: it adds its own conditions at the end of
what is there, and a refused operator is remembered unless there was one before. So what steps add
to a clause is the concatenation of what the single steps contribute to it. Here this is shown for
conditions on rows, for the settings of a statement and for joins. -/

namespace SqlBuilder

/-! ## Runs of steps -/

section Runs

variable {σ ι : Type} (apply : σ → ι → σ)

/-- A clause to which every step adds something is the concatenation of what the steps add. -/
theorem foldl_adds {β : Type} (clause : σ → List β) (part : ι → List β)
    (adds : ∀ s step, clause (apply s step) = clause s ++ part step) (steps : List ι) (s : σ) :
    clause (steps.foldl apply s) = clause s ++ steps.flatMap part := by
  induction steps generalizing s with
  | nil => simp
  | cons step rest ih => rw [List.foldl_cons, ih, adds, List.flatMap_cons, List.append_assoc]

/-- What no step changes is as it was after a run. -/
theorem foldl_keeps {β : Type} (clause : σ → β)
    (keeps : ∀ s step, clause (apply s step) = clause s) (steps : List ι) (s : σ) :
    clause (steps.foldl apply s) = clause s := by
  induction steps generalizing s with
  | nil => rfl
  | cons step rest ih => rw [List.foldl_cons, ih, keeps]

/-- If every step remembers what it refuses unless something was refused before, then the first
refused operator of the run is remembered. -/
theorem foldl_refuses (rejected : σ → Option String) (operators : ι → List String)
    (refuses : ∀ s step,
      rejected (apply s step) = firstRejected (rejected s) (firstRefused (operators step)))
    (steps : List ι) (s : σ) :
    rejected (steps.foldl apply s)
      = firstRejected (rejected s) (firstRefused (steps.flatMap operators)) := by
  induction steps generalizing s with
  | nil => exact (firstRejected_none _).symm
  | cons step rest ih =>
      rw [List.foldl_cons, ih, refuses, List.flatMap_cons, firstRefused_append,
        firstRejected_assoc]

end Runs

/-! ## Conditions on rows -/

/-- A comparison with an operator that a caller gives, if the operator is allowed. -/
def comparison (combinator : Combinator) (column operator : String) (value : Operand) :
    List Predicate :=
  if isAllowedOperator operator then [.compare combinator (some column) operator value] else []

/-- A test against a list of operands, if the list has any. -/
def listTest (combinator : Combinator) (column operator : String) : List Operand → List Predicate
  | [] => []
  | items => [.compare combinator (some column) operator (.list items)]

/-- Conditions in parentheses, if there are any. -/
def parenthesized (combinator : Combinator) : List Predicate → List Predicate
  | [] => []
  | predicates => [.group combinator predicates]

/-- One equality for each pair. -/
def equalities (combinator : Combinator) (pairs : List (String × Operand)) : List Predicate :=
  pairs.map fun pair => .compare combinator (some pair.1) "=" pair.2

mutual

/-- The conditions that a condition in one of several shapes contributes. -/
def Criteria.addedPredicates (combinator : Combinator) : Criteria → List Predicate
  | .equal column value => [.compare combinator (some column) "=" value]
  | .compare column operator value => comparison combinator column operator value
  | .equalEach pairs => equalities combinator pairs
  | .raw fragment => [.raw combinator fragment]
  | .group steps => parenthesized combinator (wherePredicates steps)

/-- The conditions that a step contributes. -/
def WhereStep.addedPredicates : WhereStep → List Predicate
  | .matching combinator criteria => criteria.addedPredicates combinator
  | .equal combinator column value => [.compare combinator (some column) "=" value]
  | .compare combinator column operator value => comparison combinator column operator value
  | .equalEach combinator pairs => equalities combinator pairs
  | .raw combinator fragment => [.raw combinator fragment]
  | .group combinator steps => parenthesized combinator (wherePredicates steps)
  | .isIn combinator column items => listTest combinator column "In" items
  | .isNotIn combinator column items => listTest combinator column "Not In" items
  | .inQuery combinator column select => [.compare combinator (some column) "In" (.query select)]
  | .notInQuery combinator column select =>
    [.compare combinator (some column) "Not In" (.query select)]
  | .isNull combinator column => [.compare combinator (some column) "Is" (.raw nullFragment)]
  | .isNotNull combinator column =>
    [.compare combinator (some column) "Is Not" (.raw nullFragment)]
  | .between combinator column low high =>
    [.compare combinator (some column) "Between" (.raw (rangeFragment low high))]
  | .notBetween combinator column low high =>
    [.compare combinator (some column) "Not Between" (.raw (rangeFragment low high))]
  | .hasRow combinator select => [.compare combinator none "Exists" (.query select)]
  | .hasNoRow combinator select => [.compare combinator none "Not Exists" (.query select)]

/-- The conditions that steps contribute. -/
def wherePredicates : List WhereStep → List Predicate
  | [] => []
  | step :: rest => step.addedPredicates ++ wherePredicates rest

end

theorem wherePredicates_append (first second : List WhereStep) :
    wherePredicates (first ++ second) = wherePredicates first ++ wherePredicates second := by
  induction first with
  | nil => rfl
  | cons step rest ih => simp only [List.cons_append, wherePredicates, ih, List.append_assoc]

theorem wherePredicates_flatMap {ι : Type} (whereSteps : ι → List WhereStep) (steps : List ι) :
    wherePredicates (steps.flatMap whereSteps)
      = steps.flatMap fun step => wherePredicates (whereSteps step) := by
  induction steps with
  | nil => rfl
  | cons step rest ih =>
      rw [List.flatMap_cons, wherePredicates_append, ih, List.flatMap_cons]

namespace WhereGroup

/-- The group with more conditions and what was refused on the way to them. -/
def extend (group : WhereGroup) (predicates : List Predicate) (refused : Option String) :
    WhereGroup :=
  ⟨group.predicates ++ predicates, firstRejected group.rejected refused⟩

theorem extend_extend (group : WhereGroup) (first second : List Predicate)
    (refused more : Option String) :
    (group.extend first refused).extend second more
      = group.extend (first ++ second) (firstRejected refused more) := by
  simp only [extend, List.append_assoc, firstRejected_assoc]

theorem extend_nil (group : WhereGroup) : group.extend [] none = group := by
  simp only [extend, List.append_nil, firstRejected_none]

theorem push_eq (group : WhereGroup) (predicate : Predicate) :
    group.push predicate = group.extend [predicate] none := by
  simp only [push, extend, firstRejected_none]

theorem compare_eq (group : WhereGroup) (combinator : Combinator) (column operator : String)
    (value : Operand) :
    group.compare combinator column operator value
      = group.extend (comparison combinator column operator value) (firstRefused [operator]) := by
  unfold compare comparison
  by_cases allowed : isAllowedOperator operator = true
  · rw [if_pos allowed, if_pos allowed, firstRefused_of_allowed allowed, push_eq]
  · rw [if_neg allowed, if_neg allowed, firstRefused_of_not_allowed allowed]
    simp only [reject, extend, List.append_nil]

theorem compare_equal (group : WhereGroup) (combinator : Combinator) (column : String)
    (value : Operand) :
    group.compare combinator column "=" value
      = group.extend [.compare combinator (some column) "=" value] none := by
  rw [compare_eq, firstRefused_of_allowed (by decide)]
  rfl

theorem equalEach_eq (group : WhereGroup) (combinator : Combinator)
    (pairs : List (String × Operand)) :
    group.equalEach combinator pairs = group.extend (equalities combinator pairs) none := by
  unfold equalEach equalities
  induction pairs generalizing group with
  | nil => exact (extend_nil group).symm
  | cons pair rest ih =>
      rw [List.foldl_cons, ih, compare_equal, extend_extend]
      rfl

theorem compareList_eq (group : WhereGroup) (combinator : Combinator) (column operator : String)
    (items : List Operand) :
    group.compareList combinator column operator items
      = group.extend (listTest combinator column operator items) none := by
  cases items with
  | nil => exact (extend_nil group).symm
  | cons item rest => exact push_eq group _

theorem pushGroup_eq (group inner : WhereGroup) (combinator : Combinator) :
    group.pushGroup combinator inner
      = group.extend (parenthesized combinator inner.predicates) inner.rejected := by
  unfold pushGroup
  cases inner.predicates with
  -- a group without conditions is left out, but what it refused is remembered
  | nil => simp only [parenthesized, extend, List.append_nil]
  | cons predicate rest => rfl

end WhereGroup

open WhereGroup in
mutual

theorem Criteria.apply_eq (combinator : Combinator) (group : WhereGroup) :
    ∀ criteria : Criteria, criteria.apply combinator group
      = group.extend (criteria.addedPredicates combinator) (firstRefused criteria.operators)
  | .equal column value => by
      simp only [Criteria.apply, Criteria.addedPredicates, Criteria.operators, compare_equal]
      rfl
  | .compare column operator value => by
      simp only [Criteria.apply, Criteria.addedPredicates, Criteria.operators, compare_eq]
  | .equalEach pairs => by
      simp only [Criteria.apply, Criteria.addedPredicates, Criteria.operators, equalEach_eq]
      rfl
  | .raw fragment => by
      simp only [Criteria.apply, Criteria.addedPredicates, Criteria.operators, push_eq]
      rfl
  | .group steps => by
      simp only [Criteria.apply, Criteria.addedPredicates, Criteria.operators, pushGroup_eq,
        applyWhere_eq {} steps]
      rfl

theorem WhereStep.apply_eq (group : WhereGroup) :
    ∀ step : WhereStep,
      step.apply group = group.extend step.addedPredicates (firstRefused step.operators)
  | .matching combinator criteria => by
      simp only [WhereStep.apply, WhereStep.addedPredicates, WhereStep.operators]
      exact Criteria.apply_eq combinator group criteria
  | .equal combinator column value => by
      simp only [WhereStep.apply, WhereStep.addedPredicates, WhereStep.operators, compare_equal]
      rfl
  | .compare combinator column operator value => by
      simp only [WhereStep.apply, WhereStep.addedPredicates, WhereStep.operators, compare_eq]
  | .equalEach combinator pairs => by
      simp only [WhereStep.apply, WhereStep.addedPredicates, WhereStep.operators, equalEach_eq]
      rfl
  | .raw combinator fragment => push_eq group _
  | .group combinator steps => by
      simp only [WhereStep.apply, WhereStep.addedPredicates, WhereStep.operators, pushGroup_eq,
        applyWhere_eq {} steps]
      rfl
  | .isIn combinator column items => compareList_eq group combinator column "In" items
  | .isNotIn combinator column items => compareList_eq group combinator column "Not In" items
  -- the operators of the other steps are not the caller's, and are not checked
  | .inQuery combinator column select => push_eq group _
  | .notInQuery combinator column select => push_eq group _
  | .isNull combinator column => push_eq group _
  | .isNotNull combinator column => push_eq group _
  | .between combinator column low high => push_eq group _
  | .notBetween combinator column low high => push_eq group _
  | .hasRow combinator select => push_eq group _
  | .hasNoRow combinator select => push_eq group _

/-- Steps append their conditions, and of all refused operators the first one is remembered. -/
theorem applyWhere_eq (group : WhereGroup) :
    ∀ steps : List WhereStep, applyWhere group steps
      = group.extend (wherePredicates steps) (firstRefused (whereOperators steps))
  | [] => (extend_nil group).symm
  | step :: rest => by
      simp only [applyWhere, wherePredicates, whereOperators]
      rw [applyWhere_eq, WhereStep.apply_eq group step, extend_extend, firstRefused_append]

end

/-! ## Settings -/

/-- The settings after an operator was possibly refused. -/
def Settings.refuse (settings : Settings) (refused : Option String) : Settings :=
  { settings with rejected := firstRejected settings.rejected refused }

@[simp]
theorem Settings.refuse_none (settings : Settings) : settings.refuse none = settings := by
  simp only [refuse, firstRejected_none]

theorem Settings.rejected_foldl (steps : List SettingStep) (settings : Settings) :
    (steps.foldl apply settings).rejected = settings.rejected := by
  induction steps generalizing settings with
  | nil => rfl
  | cons step rest ih =>
      rw [List.foldl_cons, ih]
      cases step <;> rfl

/-- Of several overrides the last one counts. -/
theorem Settings.override_foldl (steps : List SettingStep) (settings : Settings) :
    (steps.foldl apply settings).override
      = (steps.flatMap SettingStep.overrides).getLast?.or settings.override := by
  induction steps generalizing settings with
  | nil => rfl
  | cons step rest ih =>
      have first : (settings.apply step).override
          = step.overrides.getLast?.or settings.override := by
        cases step <;> rfl
      rw [List.foldl_cons, ih, first, List.flatMap_cons, List.getLast?_append, Option.or_assoc]

theorem Settings.foldl_refuse (steps : List SettingStep) (settings : Settings)
    (refused : Option String) :
    (steps.foldl apply settings).refuse refused = steps.foldl apply (settings.refuse refused) := by
  induction steps generalizing settings with
  | nil => rfl
  | cons step rest ih =>
      rw [List.foldl_cons, List.foldl_cons, ih]
      cases step <;> rfl

/-- A run takes the steps on the settings and remembers the first operator that it refuses, in
whatever order the steps come. -/
theorem foldl_settings {σ ι : Type} (apply : σ → ι → σ) (settings : σ → Settings)
    (operators : ι → List String) (settingSteps : ι → List SettingStep)
    (changes : ∀ s step, settings (apply s step)
      = (settingSteps step).foldl Settings.apply
          ((settings s).refuse (firstRefused (operators step))))
    (steps : List ι) (s : σ) :
    settings (steps.foldl apply s)
      = (steps.flatMap settingSteps).foldl Settings.apply
          ((settings s).refuse (firstRefused (steps.flatMap operators))) := by
  induction steps generalizing s with
  | nil => exact (Settings.refuse_none (settings s)).symm
  | cons step rest ih =>
      -- a later refusal is moved in front of the steps on the settings, which do not look at it
      rw [List.foldl_cons, ih, changes, Settings.foldl_refuse, List.flatMap_cons,
        List.flatMap_cons, List.foldl_append, firstRefused_append]
      simp only [Settings.refuse, firstRejected_assoc]

/-! ## Joins -/

/-- The comparison that a step of the condition of a join contributes. -/
def OnStep.addedConditions : OnStep → List OnCondition
  | .equal combinator column key => [⟨combinator, column, "=", key⟩]
  | .compare combinator column operator key =>
    if isAllowedOperator operator then [⟨combinator, column, operator, key⟩] else []

theorem JoinOn.apply_eq (join : JoinOn) (step : OnStep) :
    join.apply step
      = ⟨join.conditions ++ step.addedConditions,
          firstRejected join.rejected (firstRefused step.operators)⟩ := by
  cases step with
  | equal combinator column key =>
      rw [apply, compare, if_pos (by decide), OnStep.operators, firstRefused_nil,
        firstRejected_none]
      rfl
  | compare combinator column operator key =>
      rw [apply, compare, OnStep.operators, OnStep.addedConditions]
      by_cases allowed : isAllowedOperator operator = true
      · rw [if_pos allowed, if_pos allowed, firstRefused_of_allowed allowed, firstRejected_none]
      · rw [if_neg allowed, if_neg allowed, firstRefused_of_not_allowed allowed, List.append_nil]

theorem JoinOn.conditions_ofSteps (steps : List OnStep) :
    (JoinOn.ofSteps steps).conditions = steps.flatMap OnStep.addedConditions :=
  foldl_adds apply conditions OnStep.addedConditions (fun join step => by rw [apply_eq]) steps {}

theorem JoinOn.rejected_ofSteps (steps : List OnStep) :
    (JoinOn.ofSteps steps).rejected = firstRefused (steps.flatMap OnStep.operators) :=
  foldl_refuses apply rejected OnStep.operators (fun join step => by rw [apply_eq]) steps {}

theorem Select.filter_eq (s : Select) (step : WhereStep) :
    s.filter step
      = { s with
          predicates := s.predicates ++ step.addedPredicates
          settings := s.settings.refuse (firstRefused step.operators) } := by
  simp only [filter, WhereStep.apply_eq]
  rfl

/-- A join by one comparison, if its operator is allowed. -/
def keyJoin (kind : JoinKind) (table : Table) (column operator : String) (key : JoinKey) :
    List Join :=
  if isAllowedOperator operator then [⟨kind, table, .keys column operator key⟩] else []

/-- A join by several comparisons, if all their operators are allowed. -/
def conditionJoin (kind : JoinKind) (table : Table) (steps : List OnStep) : List Join :=
  match firstRefused (steps.flatMap OnStep.operators) with
  | some _ => []
  | none => [⟨kind, table, .several (steps.flatMap OnStep.addedConditions)⟩]

theorem Select.joinKeys_eq (s : Select) (kind : JoinKind) (table : Table)
    (column operator : String) (key : JoinKey) :
    s.joinKeys kind table column operator key
      = { s with
          joins := s.joins ++ keyJoin kind table column operator key
          settings := s.settings.refuse (firstRefused [operator]) } := by
  unfold joinKeys keyJoin
  by_cases allowed : isAllowedOperator operator = true
  · rw [if_pos allowed, if_pos allowed, firstRefused_of_allowed allowed, Settings.refuse_none]
    rfl
  · rw [if_neg allowed, if_neg allowed, firstRefused_of_not_allowed allowed, List.append_nil]
    rfl

theorem Select.joinOn_eq (s : Select) (kind : JoinKind) (table : Table) (steps : List OnStep) :
    s.joinOn kind table (.ofSteps steps)
      = { s with
          joins := s.joins ++ conditionJoin kind table steps
          settings := s.settings.refuse (firstRefused (steps.flatMap OnStep.operators)) } := by
  unfold joinOn conditionJoin
  rw [JoinOn.rejected_ofSteps]
  cases firstRefused (steps.flatMap OnStep.operators) with
  | some operator =>
      simp only [List.append_nil]
      rfl
  | none =>
      simp only [addJoin, JoinOn.conditions_ofSteps, Settings.refuse_none]

end SqlBuilder
