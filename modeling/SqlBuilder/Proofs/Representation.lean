import SqlBuilder.Proofs.Assignments
import SqlBuilder.Proofs.Render.Appends

set_option autoImplicit false

/-! # What steps keep true of a statement

However a statement is put together, and also after an operator was refused, its operators are on
the allow-list, only the tests for existence have no column, parentheses are never empty, rows have
values, and no column is set twice. Each is kept by every step, so it holds after every run of
steps. -/

namespace SqlBuilder

/-! ## Well-formed statements -/

/-- A condition on rows as steps add it, at every depth of its parentheses. -/
inductive Predicate.WellFormed : Predicate → Prop
  | compare {combinator : Combinator} {column : Option String} {operator : String}
      {value : Operand} (allowed : isAllowedOperator operator = true)
      (existence : column = none →
        (operator = "Exists" ∨ operator = "Not Exists") ∧ ∃ select, value = .query select) :
      WellFormed (.compare combinator column operator value)
  | raw (combinator : Combinator) (fragment : Fragment) : WellFormed (.raw combinator fragment)
  | group {combinator : Combinator} {predicates : List Predicate} (filled : predicates ≠ [])
      (inner : ∀ predicate ∈ predicates, predicate.WellFormed) :
      WellFormed (.group combinator predicates)

/-- The operators of the condition of a join. -/
def JoinCondition.operators : JoinCondition → List String
  | .keys _ operator _ => [operator]
  | .several conditions => conditions.map (·.operator)

/-- All operators of a join are on the allow-list. -/
def Join.WellFormed (join : Join) : Prop :=
  ∀ operator ∈ join.condition.operators, isAllowedOperator operator = true

/-- The conditions of a group under construction are well formed. -/
structure WhereGroup.WellFormed (group : WhereGroup) : Prop where
  predicates : ∀ predicate ∈ group.predicates, predicate.WellFormed

/-- The operators of a condition under construction are on the allow-list. -/
structure JoinOn.WellFormed (join : JoinOn) : Prop where
  operators : ∀ condition ∈ join.conditions, isAllowedOperator condition.operator = true

/-- A select as steps build it. -/
structure Select.WellFormed (s : Select) : Prop where
  joins : ∀ join ∈ s.joins, join.WellFormed
  predicates : ∀ predicate ∈ s.predicates, predicate.WellFormed

/-- An insert as steps build it. -/
structure Insert.WellFormed (s : Insert) : Prop where
  rows : ∀ row ∈ s.rows, row ≠ []

/-- An update as steps build it. -/
structure Update.WellFormed (s : Update) : Prop where
  columns : (s.assignments.map (·.1)).Nodup
  predicates : ∀ predicate ∈ s.predicates, predicate.WellFormed

/-- A delete as steps build it. -/
structure Delete.WellFormed (s : Delete) : Prop where
  predicates : ∀ predicate ∈ s.predicates, predicate.WellFormed

/-- A statement as steps build it. -/
def Statement.WellFormed : Statement → Prop
  | select s => s.WellFormed
  | insert s => s.WellFormed
  | update s => s.WellFormed
  | delete s => s.WellFormed

/-! ## Conditions on rows -/

/-- A comparison with a column is well formed if its operator is allowed. -/
theorem Predicate.WellFormed.ofColumn {combinator : Combinator} {column operator : String}
    {value : Operand} (allowed : isAllowedOperator operator = true) :
    (Predicate.compare combinator (some column) operator value).WellFormed := by
  refine .compare allowed fun missing => ?_
  cases missing

theorem comparison_wellFormed (combinator : Combinator) (column operator : String)
    (value : Operand) :
    ∀ predicate ∈ comparison combinator column operator value, predicate.WellFormed := by
  unfold comparison
  by_cases allowed : isAllowedOperator operator = true
  · rw [if_pos allowed, List.forall_mem_singleton]
    exact .ofColumn allowed
  · rw [if_neg allowed]
    exact List.forall_mem_nil _

theorem listTest_wellFormed (combinator : Combinator) (column : String) {operator : String}
    (allowed : isAllowedOperator operator = true) (items : List Operand) :
    ∀ predicate ∈ listTest combinator column operator items, predicate.WellFormed := by
  cases items with
  | nil => exact List.forall_mem_nil _
  | cons item rest => exact List.forall_mem_singleton.2 (.ofColumn allowed)

theorem equalities_wellFormed (combinator : Combinator) (pairs : List (String × Operand)) :
    ∀ predicate ∈ equalities combinator pairs, predicate.WellFormed := by
  intro predicate mem
  obtain ⟨pair, -, rfl⟩ := List.mem_map.1 mem
  exact .ofColumn (by decide)

theorem parenthesized_wellFormed (combinator : Combinator) {predicates : List Predicate}
    (inner : ∀ predicate ∈ predicates, predicate.WellFormed) :
    ∀ predicate ∈ parenthesized combinator predicates, predicate.WellFormed := by
  cases predicates with
  | nil => exact List.forall_mem_nil _
  | cons first rest =>
      exact List.forall_mem_singleton.2 (.group (List.cons_ne_nil first rest) inner)

mutual

theorem Criteria.addedPredicates_wellFormed (combinator : Combinator) :
    ∀ criteria : Criteria,
      ∀ predicate ∈ criteria.addedPredicates combinator, predicate.WellFormed
  | .equal column value => by
      simp only [Criteria.addedPredicates, List.forall_mem_singleton]
      exact .ofColumn (by decide)
  | .compare column operator value => by
      simp only [Criteria.addedPredicates]
      exact comparison_wellFormed combinator column operator value
  | .equalEach pairs => by
      simp only [Criteria.addedPredicates]
      exact equalities_wellFormed combinator pairs
  | .raw fragment => by
      simp only [Criteria.addedPredicates, List.forall_mem_singleton]
      exact .raw combinator fragment
  | .group steps => by
      simp only [Criteria.addedPredicates]
      exact parenthesized_wellFormed combinator (wherePredicates_wellFormed steps)

theorem WhereStep.addedPredicates_wellFormed :
    ∀ step : WhereStep, ∀ predicate ∈ step.addedPredicates, predicate.WellFormed
  | .matching combinator criteria => by
      simp only [WhereStep.addedPredicates]
      exact Criteria.addedPredicates_wellFormed combinator criteria
  | .equal combinator column value => by
      simp only [WhereStep.addedPredicates, List.forall_mem_singleton]
      exact .ofColumn (by decide)
  | .compare combinator column operator value => by
      simp only [WhereStep.addedPredicates]
      exact comparison_wellFormed combinator column operator value
  | .equalEach combinator pairs => by
      simp only [WhereStep.addedPredicates]
      exact equalities_wellFormed combinator pairs
  | .raw combinator fragment => by
      simp only [WhereStep.addedPredicates, List.forall_mem_singleton]
      exact .raw combinator fragment
  | .group combinator steps => by
      simp only [WhereStep.addedPredicates]
      exact parenthesized_wellFormed combinator (wherePredicates_wellFormed steps)
  | .isIn combinator column items => by
      simp only [WhereStep.addedPredicates]
      exact listTest_wellFormed combinator column (by decide) items
  | .isNotIn combinator column items => by
      simp only [WhereStep.addedPredicates]
      exact listTest_wellFormed combinator column (by decide) items
  -- the operators of the other steps are not checked, but they are on the list
  | .inQuery combinator column select => by
      simp only [WhereStep.addedPredicates, List.forall_mem_singleton]
      exact .ofColumn (by decide)
  | .notInQuery combinator column select => by
      simp only [WhereStep.addedPredicates, List.forall_mem_singleton]
      exact .ofColumn (by decide)
  | .isNull combinator column => by
      simp only [WhereStep.addedPredicates, List.forall_mem_singleton]
      exact .ofColumn (by decide)
  | .isNotNull combinator column => by
      simp only [WhereStep.addedPredicates, List.forall_mem_singleton]
      exact .ofColumn (by decide)
  | .between combinator column low high => by
      simp only [WhereStep.addedPredicates, List.forall_mem_singleton]
      exact .ofColumn (by decide)
  | .notBetween combinator column low high => by
      simp only [WhereStep.addedPredicates, List.forall_mem_singleton]
      exact .ofColumn (by decide)
  | .hasRow combinator select => by
      simp only [WhereStep.addedPredicates, List.forall_mem_singleton]
      exact .compare (by decide) fun _ => ⟨.inl rfl, select, rfl⟩
  | .hasNoRow combinator select => by
      simp only [WhereStep.addedPredicates, List.forall_mem_singleton]
      exact .compare (by decide) fun _ => ⟨.inr rfl, select, rfl⟩

theorem wherePredicates_wellFormed :
    ∀ steps : List WhereStep, ∀ predicate ∈ wherePredicates steps, predicate.WellFormed
  | [] => by
      simp only [wherePredicates]
      exact List.forall_mem_nil _
  | step :: rest => by
      simp only [wherePredicates, List.forall_mem_append]
      exact ⟨WhereStep.addedPredicates_wellFormed step, wherePredicates_wellFormed rest⟩

end

theorem WhereGroup.wellFormed_ofSteps (steps : List WhereStep) :
    (WhereGroup.ofSteps steps).WellFormed := by
  refine ⟨?_⟩
  rw [WhereGroup.ofSteps, applyWhere_eq]
  exact wherePredicates_wellFormed steps

/-! ## Joins -/

theorem OnStep.addedConditions_allowed (step : OnStep) :
    ∀ condition ∈ step.addedConditions, isAllowedOperator condition.operator = true := by
  cases step with
  | equal combinator column key =>
      have allowed : isAllowedOperator "=" = true := by decide
      exact List.forall_mem_singleton.2 allowed
  | compare combinator column operator key =>
      rw [addedConditions]
      by_cases allowed : isAllowedOperator operator = true
      · rw [if_pos allowed]
        exact List.forall_mem_singleton.2 allowed
      · rw [if_neg allowed]
        exact List.forall_mem_nil _

theorem JoinOn.WellFormed.apply {join : JoinOn} (h : join.WellFormed) (step : OnStep) :
    (join.apply step).WellFormed := by
  refine ⟨?_⟩
  rw [JoinOn.apply_eq]
  exact List.forall_mem_append.2 ⟨h.operators, step.addedConditions_allowed⟩

theorem JoinOn.wellFormed_ofSteps (steps : List OnStep) : (JoinOn.ofSteps steps).WellFormed :=
  List.foldlRecOn steps JoinOn.apply ⟨List.forall_mem_nil _⟩ fun _ h step _ => h.apply step

theorem keyJoin_wellFormed (kind : JoinKind) (table : Table) (column operator : String)
    (key : JoinKey) : ∀ join ∈ keyJoin kind table column operator key, join.WellFormed := by
  unfold keyJoin
  by_cases allowed : isAllowedOperator operator = true
  · rw [if_pos allowed]
    exact List.forall_mem_singleton.2 (List.forall_mem_singleton.2 allowed)
  · rw [if_neg allowed]
    exact List.forall_mem_nil _

theorem conditionJoin_wellFormed (kind : JoinKind) (table : Table) (steps : List OnStep) :
    ∀ join ∈ conditionJoin kind table steps, join.WellFormed := by
  unfold conditionJoin
  cases firstRefused (steps.flatMap OnStep.operators) with
  | some operator => exact List.forall_mem_nil _
  | none =>
      rw [List.forall_mem_singleton, ← JoinOn.conditions_ofSteps]
      exact List.forall_mem_map.2 (JoinOn.wellFormed_ofSteps steps).operators

theorem SelectStep.addedJoins_wellFormed (step : SelectStep) :
    ∀ join ∈ step.addedJoins, join.WellFormed := by
  cases step with
  | join kind table column operator key => exact keyJoin_wellFormed kind table column operator key
  | joinEqual kind table column key =>
      exact List.forall_mem_singleton.2 (List.forall_mem_singleton.2 (by decide))
  | joinOn kind table steps => exact conditionJoin_wellFormed kind table steps
  | _ => exact List.forall_mem_nil _

/-! ## Statements -/

theorem Select.WellFormed.apply {s : Select} (h : s.WellFormed) (step : SelectStep) :
    (s.apply step).WellFormed := by
  rw [apply_eq]
  exact
    { joins := List.forall_mem_append.2 ⟨h.joins, step.addedJoins_wellFormed⟩
      predicates := List.forall_mem_append.2 ⟨h.predicates, wherePredicates_wellFormed _⟩ }

theorem Insert.WellFormed.apply {s : Insert} (h : s.WellFormed) (step : InsertStep) :
    (s.apply step).WellFormed := by
  rw [apply_eq]
  have filled : ∀ row ∈ filledRows step.givenRows, row ≠ [] := by
    intro row mem
    simpa using (List.mem_filter.1 mem).2
  exact { rows := List.forall_mem_append.2 ⟨h.rows, filled⟩ }

theorem Update.WellFormed.apply {s : Update} (h : s.WellFormed) (step : UpdateStep) :
    (s.apply step).WellFormed := by
  rw [apply_eq]
  exact
    { columns := nodup_columns_setAssignments step.givenPairs h.columns
      predicates := List.forall_mem_append.2 ⟨h.predicates, wherePredicates_wellFormed _⟩ }

theorem Delete.WellFormed.apply {s : Delete} (h : s.WellFormed) (step : DeleteStep) :
    (s.apply step).WellFormed := by
  rw [apply_eq]
  exact
    { predicates := List.forall_mem_append.2 ⟨h.predicates, wherePredicates_wellFormed _⟩ }

/-- Every run of steps starts from a well-formed statement, and every step keeps it well formed. -/
theorem Program.wellFormed_statement (program : Program) : program.statement.WellFormed := by
  cases program with
  | select table steps =>
      refine List.foldlRecOn steps Select.apply ?_ fun _ h step _ => h.apply step
      exact { joins := List.forall_mem_nil _, predicates := List.forall_mem_nil _ }
  | insert table steps =>
      refine List.foldlRecOn steps Insert.apply ?_ fun _ h step _ => h.apply step
      exact { rows := List.forall_mem_nil _ }
  | update table steps =>
      refine List.foldlRecOn steps Update.apply ?_ fun _ h step _ => h.apply step
      exact { columns := List.nodup_nil, predicates := List.forall_mem_nil _ }
  | delete table steps =>
      refine List.foldlRecOn steps Delete.apply ?_ fun _ h step _ => h.apply step
      exact { predicates := List.forall_mem_nil _ }

/-! ## Parentheses -/

/-- A condition stands among others, at any depth of their parentheses. -/
inductive Predicate.Within (predicate : Predicate) : List Predicate → Prop
  | here {predicates : List Predicate} (mem : predicate ∈ predicates) : Within predicate predicates
  | deeper {combinator : Combinator} {inner predicates : List Predicate}
      (mem : .group combinator inner ∈ predicates) (within : Within predicate inner) :
      Within predicate predicates

theorem Predicate.WellFormed.of_within {predicate : Predicate} {predicates : List Predicate}
    (each : ∀ other ∈ predicates, other.WellFormed) (within : predicate.Within predicates) :
    predicate.WellFormed := by
  induction within with
  | here mem => exact each _ mem
  | deeper mem _ ih =>
      cases each _ mem with
      | group filled inner => exact ih inner

theorem Statement.WellFormed.predicates {s : Statement} (h : s.WellFormed) :
    ∀ predicate ∈ s.predicates, predicate.WellFormed := by
  cases s with
  | select s => exact Select.WellFormed.predicates h
  | insert s => exact List.forall_mem_nil _
  | update s => exact Update.WellFormed.predicates h
  | delete s => exact Delete.WellFormed.predicates h

/-- A condition that is a fragment without any text. -/
def Predicate.Vanishes (predicate : Predicate) : Prop :=
  ∃ combinator fragment params,
    predicate = .raw combinator fragment ∧ fragment.expand = .ok ("", params)

theorem conditionText_eq_empty {parts : List (Combinator × String)} (filled : parts ≠ [])
    (empty : conditionText parts = "") : ∃ combinator, parts = [(combinator, "")] := by
  cases parts with
  | nil => exact absurd rfl filled
  | cons first rest =>
      obtain ⟨combinator, text⟩ := first
      obtain ⟨rfl, others⟩ := String.append_eq_empty_iff.1 empty
      cases rest with
      | nil => exact ⟨combinator, rfl⟩
      | cons second rest =>
          -- a second condition comes with a combinator in front
          simp [String.join_cons, String.append_eq_empty_iff] at others

/-- Only a fragment can leave nothing behind: comparisons have spaces, and groups parentheses. -/
theorem Predicate.render_vanishes (predicate : Predicate) :
    Render.Ensures predicate.render fun sql _ => sql = "" ↔ predicate.Vanishes := by
  have remains {sql : String} (text : sql ≠ "") (other : ∀ combinator fragment,
      predicate ≠ .raw combinator fragment) : sql = "" ↔ predicate.Vanishes := by
    refine ⟨fun empty => absurd empty text, ?_⟩
    rintro ⟨combinator, fragment, params, same, -⟩
    exact absurd same (other combinator fragment)
  cases predicate with
  | compare combinator column operator value =>
      have anything := value.renderValue_appends.ensures
      rw [Predicate.render]
      cases column with
      | none => exact anything.bind_pure fun _ _ _ => remains (by simp) (by simp)
      | some column => exact anything.bind_pure fun _ _ _ => remains (by simp) (by simp)
  | raw combinator fragment =>
      rw [Predicate.render]
      refine (Render.Ensures.fragment fragment).mono fun sql params expands => ⟨fun empty => ?_, ?_⟩
      · exact ⟨combinator, fragment, params, rfl, empty ▸ expands⟩
      · rintro ⟨_, _, _, ⟨⟩, empty⟩
        rw [expands] at empty
        exact congrArg Prod.fst (Except.ok.inj empty)
  | group combinator predicates =>
      have anything := (renderPredicates_appends predicates).ensures
      rw [Predicate.render]
      exact anything.bind_pure fun _ _ _ => remains (by simp) (by simp)

/-- Each condition has a text of its own, which is empty only if the condition vanishes. -/
theorem renderPredicates_vanish (predicates : List Predicate) :
    Render.Ensures (renderPredicates predicates) fun parts _ =>
      List.Forall₂ (fun predicate part => part.2 = "" ↔ predicate.Vanishes) predicates parts := by
  induction predicates with
  | nil =>
      rw [renderPredicates]
      exact .pure .nil
  | cons predicate rest ih =>
      rw [renderPredicates]
      refine predicate.render_vanishes.bind fun sql _ first => ?_
      exact ih.bind_pure fun _ _ others => .cons first others

theorem parenthesized_eq_empty {text : String} (empty : "(" ++ text ++ ")" = "()") : text = "" := by
  have between : '(' :: text.toList ++ [')'] = ['('] ++ [')'] := by
    simpa using congrArg String.toList empty
  have inner := List.append_cancel_right between
  exact String.toList_eq_nil_iff.1 (List.cons.inj inner).2

/-- Parentheses around conditions are rendered with something between them, unless the caller put a
single fragment there that has no text. -/
theorem Predicate.render_group_filled (combinator : Combinator) {predicates : List Predicate}
    (filled : predicates ≠ []) :
    Render.Ensures (Predicate.group combinator predicates).render fun sql _ =>
      sql = "()" ↔ ∃ predicate, predicates = [predicate] ∧ predicate.Vanishes := by
  rw [Predicate.render]
  refine (renderPredicates_vanish predicates).bind_pure fun parts _ each => ⟨fun empty => ?_, ?_⟩
  · have inside := parenthesized_eq_empty empty
    have some_part : parts ≠ [] := by
      intro none
      rw [none] at each
      cases each
      exact filled rfl
    obtain ⟨first, rfl⟩ := conditionText_eq_empty some_part inside
    cases each with
    | cons vanishes rest =>
        cases rest
        exact ⟨_, rfl, vanishes.1 rfl⟩
  · rintro ⟨predicate, rfl, vanishes⟩
    cases each with
    | @cons _ part _ _ empty rest =>
        cases rest
        simp [conditionText, empty.2 vanishes]

/-- The representation invariant, of every statement that steps build and of what is built for its
clauses: groups of conditions and conditions of joins. A group of conditions is rendered as a pair of
parentheses only if all that it holds is a fragment without any text, and this is so for every group
of a statement, at any depth. -/
theorem Program.representation_invariant :
    (∀ program : Program, program.statement.WellFormed)
    ∧ (∀ steps : List WhereStep, (WhereGroup.ofSteps steps).WellFormed)
    ∧ (∀ steps : List OnStep, (JoinOn.ofSteps steps).WellFormed)
    ∧ (∀ (combinator : Combinator) (predicates : List Predicate),
      (Predicate.group combinator predicates).WellFormed →
        Render.Ensures (Predicate.group combinator predicates).render fun sql _ =>
          sql = "()" ↔ ∃ predicate, predicates = [predicate] ∧ predicate.Vanishes)
    ∧ ∀ (program : Program) (combinator : Combinator) (predicates : List Predicate),
      (Predicate.group combinator predicates).Within program.statement.predicates →
        predicates ≠ []
          ∧ Render.Ensures (Predicate.group combinator predicates).render fun sql _ =>
            sql = "()" ↔ ∃ predicate, predicates = [predicate] ∧ predicate.Vanishes := by
  refine ⟨Program.wellFormed_statement, WhereGroup.wellFormed_ofSteps, JoinOn.wellFormed_ofSteps,
    fun combinator predicates wellFormed => ?_, fun program combinator predicates within => ?_⟩
  · cases wellFormed with
    | group filled inner => exact Predicate.render_group_filled combinator filled
  · cases Predicate.WellFormed.of_within program.wellFormed_statement.predicates within with
    | group filled inner => exact ⟨filled, Predicate.render_group_filled combinator filled⟩

/-- An update that sets a column twice and is refused an operator inside a group, and the group that
is left of it. -/
theorem Program.representation_invariant_refused :
    let steps := [WhereStep.compare .and "b" "~" (.value .null),
      .group .or [.equal .and "b" (.value (.int 1))]]
    let program := Program.update (.named "t")
      [.assign "a" (.value .null), .assign "c" (.value .null), .filter (.group .and steps),
        .assign "a" (.value (.int 2))]
    let left := [Predicate.compare .and (some "b") "=" (.value (.int 1))]
    program.statement.WellFormed ∧ wherePredicates steps = [.group .or left]
      ∧ (Predicate.group .or left).WellFormed
      ∧ (Predicate.group .or left).Within program.statement.predicates
      ∧ Render.Ensures (Predicate.group .or left).render fun sql _ =>
        sql = "()" ↔ ∃ predicate, left = [predicate] ∧ predicate.Vanishes := by
  intro steps program left
  obtain ⟨built, -, -, -, inside⟩ := representation_invariant
  have wellFormed : (Predicate.group .or left).WellFormed := by
    refine .group (List.cons_ne_nil _ _) (List.forall_mem_singleton.2 ?_)
    exact .ofColumn (by decide)
  have within : (Predicate.group .or left).Within program.statement.predicates :=
    .deeper List.mem_cons_self (.here List.mem_cons_self)
  exact ⟨built program, rfl, wellFormed, within, (inside program .or left within).2⟩

/-- A group that holds a fragment without any text is rendered as a pair of parentheses, so it is
not so that no group is. -/
theorem Program.group_without_text :
    let program := Program.select (.named "t") [.filter (.group .and [.raw .and { sql := "" }])]
    program.statement.build = .ok ⟨"Select * From `t` Where ()", []⟩
      ∧ ¬∀ (program : Program) (combinator : Combinator) (predicates : List Predicate),
        (Predicate.group combinator predicates).Within program.statement.predicates →
          Render.Ensures (Predicate.group combinator predicates).render fun sql _ => sql ≠ "()" := by
  intro program
  refine ⟨rfl, fun never => ?_⟩
  have within : (Predicate.group .and [.raw .and { sql := "" }]).Within
      program.statement.predicates := .here List.mem_cons_self
  obtain ⟨_, _, filled⟩ := never program .and _ within {} "()" {} rfl
  exact filled rfl

end SqlBuilder
