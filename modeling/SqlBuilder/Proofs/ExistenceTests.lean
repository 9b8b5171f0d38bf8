import SqlBuilder.Proofs.Assembly
import SqlBuilder.Proofs.Render.Alone

set_option autoImplicit false

/-! # Tests for existence

A test for existence compares nothing, and the steps that are made for it store no column. But its
operators are on the allow-list, so the steps for comparisons take them as well, and with them a
column. A predicate is written with the column that it has. So a test is written without a column
exactly if it comes from a step that is made for it, at whatever depth of the groups. -/

namespace SqlBuilder

/-- The operators of tests for existence, in any case of their letters. -/
def isExistenceOperator (operator : String) : Bool :=
  ["exists", "not exists"].any (sameUpToCase · operator)

theorem isAllowedOperator_of_existence {operator : String}
    (existence : isExistenceOperator operator = true) : isAllowedOperator operator = true := by
  unfold isExistenceOperator at existence
  unfold isAllowedOperator
  rw [List.any_eq_true] at existence ⊢
  obtain ⟨listed, mem, same⟩ := existence
  have allowed : ∀ word ∈ ["exists", "not exists"], word ∈ allowedOperators := by decide
  exact ⟨listed, allowed listed mem, same⟩

/-! ## Conditions and steps at any depth -/

mutual

/-- The conditions that a condition consists of, looking into parentheses. -/
def Predicate.leaves : Predicate → List Predicate
  | .compare combinator column operator value => [.compare combinator column operator value]
  | .raw combinator fragment => [.raw combinator fragment]
  | .group _ predicates => predicateLeaves predicates

/-- The conditions that several conditions consist of. -/
def predicateLeaves : List Predicate → List Predicate
  | [] => []
  | predicate :: rest => predicate.leaves ++ predicateLeaves rest

end

mutual

/-- The steps that a condition in one of several shapes consists of, looking into groups. -/
def Criteria.leaves (combinator : Combinator) : Criteria → List WhereStep
  | .group steps => whereLeaves steps
  | criteria => [.matching combinator criteria]

/-- The steps that a step consists of. -/
def WhereStep.leaves : WhereStep → List WhereStep
  | .matching combinator criteria => criteria.leaves combinator
  | .group _ steps => whereLeaves steps
  | step => [step]

/-- The steps that several steps consist of. -/
def whereLeaves : List WhereStep → List WhereStep
  | [] => []
  | step :: rest => step.leaves ++ whereLeaves rest

end

/-- The steps of a program that add conditions. -/
def Program.whereSteps : Program → List WhereStep
  | select _ steps => steps.flatMap SelectStep.whereSteps
  | insert _ _ => []
  | update _ steps => steps.flatMap UpdateStep.whereSteps
  | delete _ steps => steps.flatMap DeleteStep.whereSteps

theorem Program.predicates_statement (program : Program) :
    program.statement.predicates = wherePredicates program.whereSteps := by
  cases program with
  | select table steps => exact Select.predicates_ofSteps table steps
  | insert table steps => rfl
  | update table steps => exact Update.predicates_ofSteps table steps
  | delete table steps => exact Delete.predicates_ofSteps table steps

theorem predicateLeaves_append (first second : List Predicate) :
    predicateLeaves (first ++ second) = predicateLeaves first ++ predicateLeaves second := by
  induction first with
  | nil => rfl
  | cons predicate rest ih =>
      rw [List.cons_append, predicateLeaves, predicateLeaves, ih, List.append_assoc]

theorem predicateLeaves_parenthesized (combinator : Combinator) (predicates : List Predicate) :
    predicateLeaves (parenthesized combinator predicates) = predicateLeaves predicates := by
  cases predicates with
  | nil => rfl
  | cons first rest =>
      simp only [parenthesized, predicateLeaves, Predicate.leaves, List.append_nil]

theorem predicateLeaves_comparison (combinator : Combinator) (column operator : String)
    (value : Operand) :
    predicateLeaves (comparison combinator column operator value)
      = comparison combinator column operator value := by
  unfold comparison
  by_cases allowed : isAllowedOperator operator = true
  · rw [if_pos allowed]
    simp only [predicateLeaves, Predicate.leaves, List.append_nil]
  · rw [if_neg allowed]
    rfl

theorem predicateLeaves_listTest (combinator : Combinator) (column operator : String)
    (items : List Operand) :
    predicateLeaves (listTest combinator column operator items)
      = listTest combinator column operator items := by
  cases items <;> simp only [listTest, predicateLeaves, Predicate.leaves, List.append_nil]

theorem predicateLeaves_equalities (combinator : Combinator) (pairs : List (String × Operand)) :
    predicateLeaves (equalities combinator pairs) = equalities combinator pairs := by
  unfold equalities
  induction pairs with
  | nil => rfl
  | cons pair rest ih =>
      rw [List.map_cons, predicateLeaves, ih]
      simp only [Predicate.leaves, List.singleton_append]

mutual

theorem Criteria.predicateLeaves_added (combinator : Combinator) :
    ∀ criteria : Criteria, predicateLeaves (criteria.addedPredicates combinator)
      = (criteria.leaves combinator).flatMap WhereStep.addedPredicates
  | .compare column operator value => by
      simp only [Criteria.addedPredicates, Criteria.leaves, WhereStep.addedPredicates,
        predicateLeaves_comparison, List.flatMap_singleton]
  | .equalEach pairs => by
      simp only [Criteria.addedPredicates, Criteria.leaves, WhereStep.addedPredicates,
        predicateLeaves_equalities, List.flatMap_singleton]
  | .group steps => by
      simp only [Criteria.addedPredicates, Criteria.leaves, predicateLeaves_parenthesized]
      exact predicateLeaves_wherePredicates steps
  | .equal .. | .raw .. => by
      simp only [Criteria.addedPredicates, Criteria.leaves, WhereStep.addedPredicates,
        predicateLeaves, Predicate.leaves, List.append_nil, List.flatMap_singleton]

theorem WhereStep.predicateLeaves_added :
    ∀ step : WhereStep, predicateLeaves step.addedPredicates
      = step.leaves.flatMap WhereStep.addedPredicates
  | .matching combinator criteria => by
      simp only [WhereStep.addedPredicates, WhereStep.leaves]
      exact Criteria.predicateLeaves_added combinator criteria
  | .compare combinator column operator value => by
      simp only [WhereStep.addedPredicates, WhereStep.leaves, predicateLeaves_comparison,
        List.flatMap_singleton]
  | .equalEach combinator pairs => by
      simp only [WhereStep.addedPredicates, WhereStep.leaves, predicateLeaves_equalities,
        List.flatMap_singleton]
  | .group combinator steps => by
      simp only [WhereStep.addedPredicates, WhereStep.leaves, predicateLeaves_parenthesized]
      exact predicateLeaves_wherePredicates steps
  | .isIn .. | .isNotIn .. => by
      simp only [WhereStep.addedPredicates, WhereStep.leaves, predicateLeaves_listTest,
        List.flatMap_singleton]
  | .equal .. | .raw .. | .inQuery .. | .notInQuery .. | .isNull .. | .isNotNull .. | .between ..
  | .notBetween .. | .hasRow .. | .hasNoRow .. => by
      simp only [WhereStep.addedPredicates, WhereStep.leaves, predicateLeaves, Predicate.leaves,
        List.append_nil, List.flatMap_singleton]

/-- What steps add at any depth is what the single steps at any depth add. -/
theorem predicateLeaves_wherePredicates :
    ∀ steps : List WhereStep, predicateLeaves (wherePredicates steps)
      = (whereLeaves steps).flatMap WhereStep.addedPredicates
  | [] => by simp only [wherePredicates, predicateLeaves, whereLeaves, List.flatMap_nil]
  | step :: rest => by
      simp only [wherePredicates, whereLeaves, predicateLeaves_append, List.flatMap_append]
      rw [WhereStep.predicateLeaves_added step, predicateLeaves_wherePredicates rest]

end

theorem Program.mem_predicateLeaves (program : Program) (predicate : Predicate) :
    predicate ∈ predicateLeaves program.statement.predicates
      ↔ ∃ step ∈ whereLeaves program.whereSteps, predicate ∈ step.addedPredicates := by
  rw [predicates_statement, predicateLeaves_wherePredicates, List.mem_flatMap]

/-! ## Which steps add tests -/

section Tests

variable {combinator : Combinator} {column : Option String} {operator : String} {select : Select}

theorem test_not_mem_listTest (own : Combinator) (name word : String) (items : List Operand) :
    Predicate.compare combinator column operator (.query select) ∉ listTest own name word items := by
  cases items <;> simp [listTest]

theorem test_not_mem_parenthesized (own : Combinator) (predicates : List Predicate) :
    Predicate.compare combinator column operator (.query select)
      ∉ parenthesized own predicates := by
  cases predicates <;> simp [parenthesized]

theorem test_mem_comparison (own : Combinator) (name word : String) (value : Operand) :
    Predicate.compare combinator column operator (.query select) ∈ comparison own name word value
      ↔ isAllowedOperator word = true ∧ combinator = own ∧ column = some name ∧ operator = word
        ∧ .query select = value := by
  unfold comparison
  by_cases allowed : isAllowedOperator word = true <;> simp [allowed]

theorem test_mem_equalities (own : Combinator) (pairs : List (String × Operand)) :
    Predicate.compare combinator column operator (.query select) ∈ equalities own pairs
      ↔ ∃ pair ∈ pairs, combinator = own ∧ column = some pair.1 ∧ operator = "="
        ∧ .query select = pair.2 := by
  unfold equalities
  rw [List.mem_map]
  simp only [Predicate.compare.injEq, eq_comm]

/-- A test without a column is added by the two steps that are made for it. -/
theorem WhereStep.adds_test_without_column (step : WhereStep) :
    Predicate.compare combinator none operator (.query select) ∈ step.addedPredicates
      ↔ operator = "Exists" ∧ step = .hasRow combinator select
        ∨ operator = "Not Exists" ∧ step = .hasNoRow combinator select := by
  cases step with
  | matching own criteria =>
      cases criteria <;>
        simp [addedPredicates, Criteria.addedPredicates, test_mem_comparison, test_mem_equalities,
          test_not_mem_parenthesized]
  | hasRow own inner | hasNoRow own inner =>
      simp [addedPredicates, eq_comm]
      tauto
  | _ =>
      simp [addedPredicates, test_mem_comparison, test_mem_equalities, test_not_mem_parenthesized,
        test_not_mem_listTest]

/-- A test with a column is added by the steps that take an operator. -/
theorem WhereStep.adds_test_with_column (existence : isExistenceOperator operator = true)
    (step : WhereStep) (name : String) :
    Predicate.compare combinator (some name) operator (.query select) ∈ step.addedPredicates
      ↔ step = .compare combinator name operator (.query select)
        ∨ step = .matching combinator (.compare name operator (.query select)) := by
  have other (word : String) (plain : isExistenceOperator word = false) : operator ≠ word := by
    rintro rfl
    rw [existence] at plain
    cases plain
  have not_equal : operator ≠ "=" := other "=" (by decide)
  have not_in : operator ≠ "In" ∧ operator ≠ "Not In" := ⟨other "In" (by decide), other _ (by decide)⟩
  -- the operator that was let through is the operator of the test
  have taken (own : Combinator) (own_name word : String) (value : Operand) :
      Predicate.compare combinator (some name) operator (.query select)
          ∈ comparison own own_name word value
        ↔ own = combinator ∧ own_name = name ∧ word = operator ∧ value = .query select := by
    rw [test_mem_comparison]
    constructor
    · rintro ⟨-, rfl, same, rfl, rfl⟩
      exact ⟨rfl, (Option.some.inj same).symm, rfl, rfl⟩
    · rintro ⟨rfl, rfl, rfl, rfl⟩
      exact ⟨isAllowedOperator_of_existence existence, rfl, rfl, rfl, rfl⟩
  cases step with
  | matching own criteria =>
      cases criteria <;>
        simp [addedPredicates, Criteria.addedPredicates, taken, test_mem_equalities,
          test_not_mem_parenthesized, not_equal]
  | _ =>
      simp [addedPredicates, taken, test_mem_equalities, test_not_mem_parenthesized,
        test_not_mem_listTest, not_equal, not_in]

end Tests

/-! ## How tests are written -/

/-- A test without a column is its operator, a blank and what the subquery yields. -/
theorem Predicate.query_test (combinator : Combinator) (operator : String) (select : Select) :
    (Predicate.compare combinator none operator (.query select)).render.query
      = (Clause.subquery select).query.map fun query => .bare (operator ++ " ") ++ query := by
  have rendered : (Predicate.compare combinator none operator (.query select)).render
      = (operator ++ " " ++ ·) <$> (Clause.subquery select).render := by
    simp only [render, Operand.renderValue, Clause.render, map_eq_pure_bind]
  rw [rendered, Render.query_map]
  rfl

/-- With a column it is that, after the column and another blank. -/
theorem Predicate.query_test_column (combinator : Combinator) (name operator : String)
    (select : Select) :
    (Predicate.compare combinator (some name) operator (.query select)).render.query
      = (Clause.subquery select).query.map fun query =>
          .bare (escape name ++ " " ++ operator ++ " ") ++ query := by
  have rendered : (Predicate.compare combinator (some name) operator (.query select)).render
      = (escape name ++ " " ++ operator ++ " " ++ ·) <$> (Clause.subquery select).render := by
    simp only [render, Operand.renderValue, Clause.render, map_eq_pure_bind]
  rw [rendered, Render.query_map]
  rfl

/-- In every statement that steps build, at any depth of its groups, a test for existence has no
column exactly if it was added by a step that is made for it, and then it is written as its
operator and its subquery in parentheses. Steps that take an operator take those of tests as well,
in any case, and what they add is written with their column in front. -/
theorem Program.existence_tests (program : Program) (combinator : Combinator) (operator : String)
    (select : Select) :
    let test (column : Option String) :=
      Predicate.compare combinator column operator (.query select)
    let predicates := predicateLeaves program.statement.predicates
    let steps := whereLeaves program.whereSteps
    let subquery := (Statement.select select).build.map Query.parenthesized
    (test none ∈ predicates
        ↔ operator = "Exists" ∧ .hasRow combinator select ∈ steps
          ∨ operator = "Not Exists" ∧ .hasNoRow combinator select ∈ steps)
      ∧ (test none).render.query = subquery.map (.bare (operator ++ " ") ++ ·)
      ∧ (isExistenceOperator operator = true → ∀ name,
        test (some name) ∈ predicates
          ↔ .compare combinator name operator (.query select) ∈ steps
            ∨ .matching combinator (.compare name operator (.query select)) ∈ steps)
      ∧ ∀ name, (test (some name)).render.query
        = subquery.map (.bare (escape name ++ " " ++ operator ++ " ") ++ ·) := by
  intro test predicates steps subquery
  refine ⟨?_, ?_, ?_, ?_⟩
  · rw [mem_predicateLeaves]
    simp only [test, WhereStep.adds_test_without_column]
    constructor
    · rintro ⟨step, mem, ⟨word, rfl⟩ | ⟨word, rfl⟩⟩
      · exact .inl ⟨word, mem⟩
      · exact .inr ⟨word, mem⟩
    · rintro (⟨word, mem⟩ | ⟨word, mem⟩)
      · exact ⟨_, mem, .inl ⟨word, rfl⟩⟩
      · exact ⟨_, mem, .inr ⟨word, rfl⟩⟩
  · rw [Predicate.query_test, Clause.query_subquery]
  · intro existence name
    rw [mem_predicateLeaves]
    simp only [test, WhereStep.adds_test_with_column existence]
    constructor
    · rintro ⟨step, mem, rfl | rfl⟩
      · exact .inl mem
      · exact .inr mem
    · rintro (mem | mem)
      · exact ⟨_, mem, .inl rfl⟩
      · exact ⟨_, mem, .inr rfl⟩
  · intro name
    rw [Predicate.query_test_column, Clause.query_subquery]

/-- One test in a group and one from a step that takes an operator. -/
theorem Program.existence_tests_in_group :
    let select := Select.ofTable (.named "u")
    let program := Program.update (.named "t")
      [.filter (.group .and
        [.hasNoRow .or select, .matching .and (.compare "c" "NOT exists" (.query select))])]
    let predicates := predicateLeaves program.statement.predicates
    isExistenceOperator "NOT exists" = true
      ∧ .compare .or none "Not Exists" (.query select) ∈ predicates
      ∧ .compare .and (some "c") "NOT exists" (.query select) ∈ predicates := by
  intro select program predicates
  have existence : isExistenceOperator "NOT exists" = true := by decide
  have alone := program.existence_tests .or "Not Exists" select
  have named := program.existence_tests .and "NOT exists" select
  refine ⟨existence, alone.1.2 (.inr ⟨rfl, ?_⟩), (named.2.2.1 existence "c").2 (.inr ?_)⟩
  · exact .head _
  · exact .tail _ (.head _)

/-- A comparison to a subquery by an operator of tests has its column in the text. -/
theorem Program.existence_test_with_column :
    let select := Select.ofTable (.named "u")
    let program := Program.select (.named "t")
      [.filter (.compare .and "c" "exists" (.query select))]
    program.statement.build = .ok ⟨"Select * From `t` Where `c` exists (Select * From `u`)", []⟩
      ∧ ¬∀ (program : Program) (combinator : Combinator) (column : Option String)
          (operator : String) (select : Select), isExistenceOperator operator = true →
        .compare combinator column operator (.query select)
          ∈ predicateLeaves program.statement.predicates →
        (Predicate.compare combinator column operator (.query select)).render.query
          = (Statement.select select).build.map
              (.bare (operator ++ " ") ++ Query.parenthesized ·) := by
  intro select program
  refine ⟨rfl, fun law => ?_⟩
  have written : (Predicate.compare .and (some "c") "exists" (.query select)).render.query
      = .ok ⟨"`c` exists (Select * From `u`)", []⟩ := rfl
  have bare : (Predicate.compare .and (some "c") "exists" (.query select)).render.query
      = .ok ⟨"exists (Select * From `u`)", []⟩ :=
    law program .and (some "c") "exists" select (by decide) (.head _)
  rw [written] at bare
  simp at bare

end SqlBuilder
