import SqlBuilder.Proofs.Filtering

set_option autoImplicit false

/-! # Steps that join with Or

Every step that joins its conditions with And has a counterpart that joins them with Or, and most
can also be said by a condition in one of several shapes. A run of counterparts adds the same
conditions in the same order, and only their combinators are others: so the texts differ in the
keywords between them, and in nothing else. -/

namespace SqlBuilder

namespace WhereStep

/-- The combinator of a step. -/
def combinator : WhereStep → Combinator
  | matching combinator _ => combinator
  | equal combinator _ _ => combinator
  | compare combinator _ _ _ => combinator
  | equalEach combinator _ => combinator
  | raw combinator _ => combinator
  | group combinator _ => combinator
  | isIn combinator _ _ => combinator
  | isNotIn combinator _ _ => combinator
  | inQuery combinator _ _ => combinator
  | notInQuery combinator _ _ => combinator
  | isNull combinator _ => combinator
  | isNotNull combinator _ => combinator
  | between combinator _ _ _ => combinator
  | notBetween combinator _ _ _ => combinator
  | hasRow combinator _ => combinator
  | hasNoRow combinator _ => combinator

/-- The step with another combinator. The combinators in its parentheses stay. -/
def withCombinator (combinator : Combinator) : WhereStep → WhereStep
  | matching _ criteria => matching combinator criteria
  | equal _ column value => equal combinator column value
  | compare _ column operator value => compare combinator column operator value
  | equalEach _ pairs => equalEach combinator pairs
  | raw _ fragment => raw combinator fragment
  | group _ steps => group combinator steps
  | isIn _ column items => isIn combinator column items
  | isNotIn _ column items => isNotIn combinator column items
  | inQuery _ column select => inQuery combinator column select
  | notInQuery _ column select => notInQuery combinator column select
  | isNull _ column => isNull combinator column
  | isNotNull _ column => isNotNull combinator column
  | between _ column low high => between combinator column low high
  | notBetween _ column low high => notBetween combinator column low high
  | hasRow _ select => hasRow combinator select
  | hasNoRow _ select => hasNoRow combinator select

/-- A step that joins with And, and one that says the same and joins with Or: the same step, or
the condition of its shape. -/
inductive Mirrors : WhereStep → WhereStep → Prop
  | joined (step : WhereStep) (joins : step.combinator = .and) :
      Mirrors step (step.withCombinator .or)
  | equal (column : String) (value : Operand) :
      Mirrors (.equal .and column value) (.matching .or (.equal column value))
  | compare (column operator : String) (value : Operand) :
      Mirrors (.compare .and column operator value) (.matching .or (.compare column operator value))
  | equalEach (pairs : List (String × Operand)) :
      Mirrors (.equalEach .and pairs) (.matching .or (.equalEach pairs))
  | raw (fragment : Fragment) : Mirrors (.raw .and fragment) (.matching .or (.raw fragment))
  | group (steps : List WhereStep) : Mirrors (.group .and steps) (.matching .or (.group steps))

theorem withCombinator_self (step : WhereStep) : step.withCombinator step.combinator = step := by
  cases step <;> rfl

theorem operators_withCombinator (combinator : Combinator) (step : WhereStep) :
    (step.withCombinator combinator).operators = step.operators := by
  cases step <;> simp only [withCombinator, operators]

end WhereStep

/-! ## What counterparts add -/

section Combinators

variable (combinator other : Combinator)

theorem comparison_map (column operator : String) (value : Operand) :
    (comparison other column operator value).map (·.withCombinator combinator)
      = comparison combinator column operator value := by
  unfold comparison
  by_cases allowed : isAllowedOperator operator = true
  · rw [if_pos allowed, if_pos allowed]
    rfl
  · rw [if_neg allowed, if_neg allowed]
    rfl

theorem equalities_map (pairs : List (String × Operand)) :
    (equalities other pairs).map (·.withCombinator combinator) = equalities combinator pairs := by
  unfold equalities
  rw [List.map_map]
  rfl

theorem listTest_map (column operator : String) (items : List Operand) :
    (listTest other column operator items).map (·.withCombinator combinator)
      = listTest combinator column operator items := by
  cases items <;> rfl

theorem parenthesized_map (predicates : List Predicate) :
    (parenthesized other predicates).map (·.withCombinator combinator)
      = parenthesized combinator predicates := by
  cases predicates <;> rfl

theorem Criteria.addedPredicates_map (criteria : Criteria) :
    (criteria.addedPredicates other).map (·.withCombinator combinator)
      = criteria.addedPredicates combinator := by
  cases criteria with
  | equal column value => rfl
  | compare column operator value => exact comparison_map combinator other column operator value
  | equalEach pairs => exact equalities_map combinator other pairs
  | raw fragment => rfl
  | group steps => exact parenthesized_map combinator other (wherePredicates steps)

/-- With another combinator a step adds the same conditions with that combinator. -/
theorem WhereStep.addedPredicates_withCombinator (step : WhereStep) :
    (step.withCombinator combinator).addedPredicates
      = step.addedPredicates.map (·.withCombinator combinator) := by
  cases step with
  | matching other criteria => exact (criteria.addedPredicates_map combinator other).symm
  | compare other column operator value =>
      exact (comparison_map combinator other column operator value).symm
  | equalEach other pairs => exact (equalities_map combinator other pairs).symm
  | group other steps => exact (parenthesized_map combinator other (wherePredicates steps)).symm
  | isIn other column items => exact (listTest_map combinator other column "In" items).symm
  | isNotIn other column items => exact (listTest_map combinator other column "Not In" items).symm
  | _ => rfl

end Combinators

theorem WhereStep.combinator_of_mem {step : WhereStep} {predicate : Predicate}
    (added : predicate ∈ step.addedPredicates) : predicate.combinator = step.combinator := by
  rw [← step.withCombinator_self, addedPredicates_withCombinator] at added
  obtain ⟨original, -, rfl⟩ := List.mem_map.1 added
  exact original.combinator_withCombinator step.combinator

namespace WhereStep.Mirrors

variable {step other : WhereStep}

theorem combinator_eq (mirrors : step.Mirrors other) : step.combinator = .and := by
  cases mirrors with
  | joined _ joins => exact joins
  | _ => rfl

/-- What a step adds by its condition in one of several shapes is what it adds as it is. -/
theorem addedPredicates_eq (mirrors : step.Mirrors other) :
    other.addedPredicates = step.addedPredicates.map (·.withCombinator .or) := by
  rw [← addedPredicates_withCombinator]
  cases mirrors <;> simp only [addedPredicates, Criteria.addedPredicates, withCombinator]

theorem operators_eq (mirrors : step.Mirrors other) : other.operators = step.operators := by
  cases mirrors with
  | joined => exact operators_withCombinator .or step
  | _ => simp only [operators, Criteria.operators]

end WhereStep.Mirrors

section Runs

variable {steps others : List WhereStep}

theorem wherePredicates_mirrored (mirrors : List.Forall₂ WhereStep.Mirrors steps others) :
    wherePredicates others = (wherePredicates steps).map (·.withCombinator .or) := by
  induction mirrors with
  | nil => rfl
  | cons first rest ih =>
      simp only [wherePredicates, first.addedPredicates_eq, ih, List.map_append]

theorem whereOperators_mirrored (mirrors : List.Forall₂ WhereStep.Mirrors steps others) :
    whereOperators others = whereOperators steps := by
  induction mirrors with
  | nil => rfl
  | cons first rest ih => simp only [whereOperators, first.operators_eq, ih]

theorem combinator_of_mirrored (mirrors : List.Forall₂ WhereStep.Mirrors steps others) :
    ∀ predicate ∈ wherePredicates steps, predicate.combinator = .and := by
  induction mirrors with
  | nil => exact List.forall_mem_nil _
  | cons first rest ih =>
      simp only [wherePredicates, List.forall_mem_append]
      refine ⟨fun predicate added => ?_, ih⟩
      rw [WhereStep.combinator_of_mem added, first.combinator_eq]

end Runs

/-! ## Texts and keywords -/

/-- Conditions with their keyword, written with the given combinators instead of their own. -/
def renderJoined (combinators : List Combinator) (predicates : List Predicate) : Render String :=
  (fun texts => whereText (combinators.zip texts)) <$> predicates.mapM Predicate.render

/-- Conditions are rendered to their texts, and each text gets the combinator of its condition. -/
theorem renderPredicates_eq_zip (predicates : List Predicate) :
    renderPredicates predicates
      = (fun texts => (predicates.map Predicate.combinator).zip texts)
          <$> predicates.mapM Predicate.render := by
  induction predicates with
  | nil => simp only [renderPredicates, List.mapM_nil, map_pure, List.map_nil, List.zip_nil_left]
  | cons predicate rest ih =>
      simp only [renderPredicates, ih, List.mapM_cons, map_bind, map_pure, bind_map_left,
        List.map_cons, List.zip_cons_cons]

theorem renderWhere_eq_joined (predicates : List Predicate) :
    renderWhere predicates = renderJoined (predicates.map Predicate.combinator) predicates := by
  simp only [renderWhere, renderJoined, renderPredicates_eq_zip, map_eq_pure_bind, bind_assoc,
    pure_bind]

/-- Only the given combinators are written. -/
theorem renderJoined_withCombinator (combinators : List Combinator) (combinator : Combinator)
    (before predicates : List Predicate) :
    renderJoined combinators (before ++ predicates.map (·.withCombinator combinator))
      = renderJoined combinators (before ++ predicates) := by
  have bodies : Predicate.render ∘ (·.withCombinator combinator) = Predicate.render :=
    funext fun predicate => predicate.render_withCombinator combinator
  simp only [renderJoined, List.mapM_append, List.mapM_map, bodies]

namespace Filterable

/-- Steps that join with Or add what their counterparts add that join with And: the same
conditions in the same order after those that were there, with the combinator Or instead of And,
and they refuse the same operator. The texts of the conditions are the same ones, and only the
keywords that join the added conditions differ. -/
theorem or_mirrors_and (target : Filterable) {steps others : List WhereStep}
    (mirrors : List.Forall₂ WhereStep.Mirrors steps others) :
    let anded := target.filterEach steps
    let ored := target.filterEach others
    let before := target.predicates.map Predicate.combinator
    ∃ added : List Predicate,
      anded.predicates = target.predicates ++ added
      ∧ (∀ predicate ∈ added, predicate.combinator = .and)
      ∧ ored = anded.withPredicates (target.predicates ++ added.map (·.withCombinator .or))
      ∧ ored.rejected = anded.rejected
      ∧ (Clause.filter anded.predicates).render
        = renderJoined (before ++ List.replicate added.length .and) anded.predicates
      ∧ (Clause.filter ored.predicates).render
        = renderJoined (before ++ List.replicate added.length .or) anded.predicates
      ∧ anded.build = anded.frame.fill (Clause.filter anded.predicates).query
      ∧ ored.build = anded.frame.fill (Clause.filter ored.predicates).query := by
  intro anded ored before
  have predicates : anded.predicates = target.predicates ++ wherePredicates steps :=
    target.predicates_filterEach steps
  have joins := combinator_of_mirrored mirrors
  have same : ored = anded.withPredicates
      (target.predicates ++ (wherePredicates steps).map (·.withCombinator .or)) := by
    simp only [ored, anded, filterEach_eq, wherePredicates_mirrored mirrors,
      whereOperators_mirrored mirrors]
    exact target.extend_eq_withPredicates _ _ _
  have predicatesOr : ored.predicates
      = target.predicates ++ (wherePredicates steps).map (·.withCombinator .or) := by
    rw [same, predicates_withPredicates]
  have combinators : (wherePredicates steps).map Predicate.combinator
      = List.replicate (wherePredicates steps).length .and :=
    List.map_eq_replicate_iff.2 joins
  have combinatorsOr :
      ((wherePredicates steps).map (·.withCombinator .or)).map Predicate.combinator
        = List.replicate (wherePredicates steps).length .or := by
    rw [List.map_map]
    exact List.map_eq_replicate_iff.2 fun predicate _ => predicate.combinator_withCombinator .or
  refine ⟨wherePredicates steps, predicates, joins, same, ?_, ?_, ?_, anded.build_eq, ?_⟩
  · rw [same, rejected_withPredicates]
  · rw [Clause.render, renderWhere_eq_joined, predicates, List.map_append, combinators]
  · rw [Clause.render, renderWhere_eq_joined, predicatesOr, List.map_append, combinatorsOr,
      renderJoined_withCombinator, predicates]
  · rw [same, build_withPredicates, predicates_withPredicates]

/-- A delete with a condition is filtered by five more steps, two of which add nothing. -/
theorem or_mirrors_and_delete :
    let target := delete { table := .named "t", predicates := [.raw .and { sql := "x" }] }
    let inner := [WhereStep.isNull .and "b", .isNotNull .and "c"]
    let steps := [WhereStep.equal .and "a" (.value (.int 1)), .group .and inner, .isIn .and "d" [],
      .compare .and "e" "~" (.value .null), .between .and "f" (.int 2) (.int 3)]
    let others := [WhereStep.matching .or (.equal "a" (.value (.int 1))),
      .matching .or (.group inner), .isIn .or "d" [], .compare .or "e" "~" (.value .null),
      .between .or "f" (.int 2) (.int 3)]
    let filtered := (target.filterEach steps).predicates
    let filteredOr := (target.filterEach others).predicates
    List.Forall₂ WhereStep.Mirrors steps others
      ∧ (target.filterEach steps).rejected = some "~"
      ∧ (target.filterEach others).rejected = some "~"
      ∧ (Clause.filter filtered).query
        = .ok ⟨" Where x And `a` = ? And (`b` Is Null And `c` Is Not Null) And `f` Between ? And ?",
          [.int 1, .int 2, .int 3]⟩
      ∧ (Clause.filter filteredOr).query
        = .ok ⟨" Where x Or `a` = ? Or (`b` Is Null And `c` Is Not Null) Or `f` Between ? And ?",
          [.int 1, .int 2, .int 3]⟩ := by
  intro target inner steps others filtered filteredOr
  have mirrors : List.Forall₂ WhereStep.Mirrors steps others :=
    .cons (.equal _ _) (.cons (.group _) (.cons (.joined _ rfl) (.cons (.joined _ rfl)
      (.cons (.joined _ rfl) .nil))))
  obtain ⟨-, -, -, -, rejected, -⟩ := target.or_mirrors_and mirrors
  exact ⟨mirrors, rfl, rejected.trans rfl, rfl, rfl⟩

end Filterable

end SqlBuilder
