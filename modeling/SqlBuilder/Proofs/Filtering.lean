import SqlBuilder.Proofs.FirstClause
import SqlBuilder.Proofs.Frames

set_option autoImplicit false

/-! # What can be filtered

Selects, updates, deletes and groups of conditions are filtered by the same steps, each in a list
and a memory of its own. A run of steps does the same to all of them: it adds the conditions that
the steps contribute and remembers the first operator that they refuse. So taking steps in a group
means what taking them directly means, but for the parentheses. -/

namespace SqlBuilder

/-- What conditions on rows can be added to. -/
inductive Filterable where
  | select (s : Select)
  | update (s : Update)
  | delete (s : Delete)
  | group (g : WhereGroup)

namespace Filterable

/-- The conditions so far. -/
def predicates : Filterable → List Predicate
  | select s => s.predicates
  | update s => s.predicates
  | delete s => s.predicates
  | group g => g.predicates

/-- The first operator that was refused. -/
def rejected : Filterable → Option String
  | select s => s.settings.rejected
  | update s => s.settings.rejected
  | delete s => s.settings.rejected
  | group g => g.rejected

/-- The same with other conditions. -/
def withPredicates (predicates : List Predicate) : Filterable → Filterable
  | select s => select { s with predicates }
  | update s => update { s with predicates }
  | delete s => delete { s with predicates }
  | group g => group { g with predicates }

/-- Takes one step. -/
def filter (target : Filterable) (step : WhereStep) : Filterable :=
  match target with
  | select s => select (s.apply (.filter step))
  | update s => update (s.apply (.filter step))
  | delete s => delete (s.apply (.filter step))
  | group g => group (step.apply g)

/-- Takes steps one after the other. -/
def filterEach (target : Filterable) (steps : List WhereStep) : Filterable :=
  steps.foldl filter target

/-- What is built: a statement as a whole, and of a group the conditions with their keyword. -/
def build : Filterable → Except QueryError Query
  | select s => (Statement.select s).build
  | update s => (Statement.update s).build
  | delete s => (Statement.delete s).build
  | group g => (Clause.filter g.predicates).query

/-- What stands around the conditions in what is built. -/
def frame : Filterable → Frame
  | select s => s.frame
  | update s => s.frame
  | delete s => s.frame
  | group _ => .around (.ok (.bare "")) (.ok (.bare ""))

theorem build_eq (target : Filterable) :
    target.build = target.frame.fill (Clause.filter target.predicates).query := by
  cases target with
  | select s => exact s.build_eq
  | update s => exact s.build_eq
  | delete s => exact s.build_eq
  | group g =>
      have empty (clause : Query) : .bare "" ++ clause ++ .bare "" = clause := by
        simp [Query.append_eq, Query.bare]
      simp only [build, frame, predicates, Frame.fill]
      cases (Clause.filter g.predicates).query with
      | error e => rfl
      | ok clause => exact congrArg Except.ok (empty clause).symm

@[simp]
theorem predicates_withPredicates (target : Filterable) (predicates : List Predicate) :
    (target.withPredicates predicates).predicates = predicates := by
  cases target <;> rfl

@[simp]
theorem rejected_withPredicates (target : Filterable) (predicates : List Predicate) :
    (target.withPredicates predicates).rejected = target.rejected := by
  cases target <;> rfl

theorem frame_withPredicates (target : Filterable) (predicates : List Predicate) :
    (target.withPredicates predicates).frame = target.frame := by
  cases target <;> rfl

theorem withPredicates_self (target : Filterable) :
    target.withPredicates target.predicates = target := by
  cases target with
  | select s =>
      cases s
      rfl
  | _ => rfl

/-- What differs in its conditions only is built in the same frame. -/
theorem build_withPredicates (target : Filterable) (predicates : List Predicate) :
    (target.withPredicates predicates).build
      = target.frame.fill (Clause.filter predicates).query := by
  rw [build_eq, frame_withPredicates, predicates_withPredicates]

/-! ## Runs of steps -/

/-- The same with an operator that is possibly refused. -/
def refuse (refused : Option String) : Filterable → Filterable
  | select s => select { s with settings := s.settings.refuse refused }
  | update s => update { s with settings := s.settings.refuse refused }
  | delete s => delete { s with settings := s.settings.refuse refused }
  | group g => group { g with rejected := firstRejected g.rejected refused }

/-- The same with more conditions and what was refused on the way to them. -/
def extend (target : Filterable) (predicates : List Predicate) (refused : Option String) :
    Filterable :=
  (target.refuse refused).withPredicates (target.predicates ++ predicates)

theorem predicates_extend (target : Filterable) (predicates : List Predicate)
    (refused : Option String) :
    (target.extend predicates refused).predicates = target.predicates ++ predicates := by
  rw [extend, predicates_withPredicates]

theorem refuse_none (target : Filterable) : target.refuse none = target := by
  cases target with
  | select s =>
      cases s
      simp only [refuse, Settings.refuse_none]
  | _ => simp only [refuse, Settings.refuse_none, firstRejected_none]

theorem extend_nil (target : Filterable) : target.extend [] none = target := by
  rw [extend, refuse_none, List.append_nil, withPredicates_self]

theorem extend_extend (target : Filterable) (first second : List Predicate)
    (refused more : Option String) :
    (target.extend first refused).extend second more
      = target.extend (first ++ second) (firstRejected refused more) := by
  cases target <;>
    simp only [extend, refuse, withPredicates, predicates, Settings.refuse, firstRejected_assoc,
      List.append_assoc]

/-- The two differ in their conditions only. -/
theorem extend_eq_withPredicates (target : Filterable) (first second : List Predicate)
    (refused : Option String) :
    target.extend second refused
      = (target.extend first refused).withPredicates (target.predicates ++ second) := by
  cases target <;> rfl

theorem filter_eq (target : Filterable) (step : WhereStep) :
    target.filter step = target.extend step.addedPredicates (firstRefused step.operators) := by
  cases target with
  | select s =>
      simp only [filter, Select.apply, Select.filter_eq]
      rfl
  | update s =>
      simp only [filter, Update.apply, Update.filter_eq]
      rfl
  | delete s =>
      simp only [filter, Delete.apply, Delete.filter_eq]
      rfl
  | group g =>
      simp only [filter, WhereStep.apply_eq]
      rfl

theorem filterEach_eq (target : Filterable) (steps : List WhereStep) :
    target.filterEach steps
      = target.extend (wherePredicates steps) (firstRefused (whereOperators steps)) := by
  unfold filterEach
  induction steps generalizing target with
  | nil => exact target.extend_nil.symm
  | cons step rest ih =>
      rw [List.foldl_cons, ih, filter_eq, extend_extend, ← firstRefused_append]
      rfl

end Filterable

/-! ## Steps that add nothing -/

mutual

/-- A condition in one of several shapes that adds nothing. -/
def Criteria.AddsNothing : Criteria → Prop
  | .compare _ operator _ => ¬isAllowedOperator operator = true
  | .equalEach pairs => pairs = []
  | .group steps => AddNothing steps
  | _ => False

/-- A step that adds nothing: a refused operator, no pairs, an empty list of operands, or a group
of such steps. -/
def WhereStep.AddsNothing : WhereStep → Prop
  | .matching _ criteria => criteria.AddsNothing
  | .compare _ _ operator _ => ¬isAllowedOperator operator = true
  | .equalEach _ pairs => pairs = []
  | .group _ steps => AddNothing steps
  | .isIn _ _ items => items = []
  | .isNotIn _ _ items => items = []
  | _ => False

/-- Steps that add nothing. -/
def AddNothing : List WhereStep → Prop
  | [] => True
  | step :: rest => step.AddsNothing ∧ AddNothing rest

end

theorem comparison_eq_nil (combinator : Combinator) (column operator : String) (value : Operand) :
    comparison combinator column operator value = [] ↔ ¬isAllowedOperator operator = true := by
  unfold comparison
  by_cases allowed : isAllowedOperator operator = true <;> simp [allowed]

theorem equalities_eq_nil (combinator : Combinator) (pairs : List (String × Operand)) :
    equalities combinator pairs = [] ↔ pairs = [] :=
  List.map_eq_nil_iff

theorem listTest_eq_nil (combinator : Combinator) (column operator : String)
    (items : List Operand) : listTest combinator column operator items = [] ↔ items = [] := by
  cases items <;> simp [listTest]

theorem parenthesized_eq_nil (combinator : Combinator) (predicates : List Predicate) :
    parenthesized combinator predicates = [] ↔ predicates = [] := by
  cases predicates <;> simp [parenthesized]

mutual

theorem Criteria.addedPredicates_eq_nil (combinator : Combinator) :
    ∀ criteria : Criteria, criteria.addedPredicates combinator = [] ↔ criteria.AddsNothing
  | .compare column operator value => comparison_eq_nil combinator column operator value
  | .equalEach pairs => equalities_eq_nil combinator pairs
  | .group steps => by
      simp only [Criteria.addedPredicates, Criteria.AddsNothing, parenthesized_eq_nil]
      exact wherePredicates_eq_nil steps
  | .equal .. | .raw .. => by simp [Criteria.addedPredicates, Criteria.AddsNothing]

theorem WhereStep.addedPredicates_eq_nil :
    ∀ step : WhereStep, step.addedPredicates = [] ↔ step.AddsNothing
  | .matching combinator criteria => by
      simp only [WhereStep.addedPredicates, WhereStep.AddsNothing]
      exact Criteria.addedPredicates_eq_nil combinator criteria
  | .compare combinator column operator value => comparison_eq_nil combinator column operator value
  | .equalEach combinator pairs => equalities_eq_nil combinator pairs
  | .group combinator steps => by
      simp only [WhereStep.addedPredicates, WhereStep.AddsNothing, parenthesized_eq_nil]
      exact wherePredicates_eq_nil steps
  | .isIn combinator column items => listTest_eq_nil combinator column "In" items
  | .isNotIn combinator column items => listTest_eq_nil combinator column "Not In" items
  | .equal .. | .raw .. | .inQuery .. | .notInQuery .. | .isNull .. | .isNotNull .. | .between ..
  | .notBetween .. | .hasRow .. | .hasNoRow .. => by
      simp [WhereStep.addedPredicates, WhereStep.AddsNothing]

/-- Steps contribute no conditions if and only if each of them adds nothing. -/
theorem wherePredicates_eq_nil :
    ∀ steps : List WhereStep, wherePredicates steps = [] ↔ AddNothing steps
  | [] => by simp [wherePredicates, AddNothing]
  | step :: rest => by
      simp only [wherePredicates, AddNothing, List.append_eq_nil_iff]
      rw [WhereStep.addedPredicates_eq_nil step, wherePredicates_eq_nil rest]

end

/-! ## Groups and their contents -/

/-- Conditions with their keyword. -/
theorem Clause.query_filter {predicates : List Predicate} (filled : predicates ≠ []) :
    (Clause.filter predicates).query
      = (Clause.conditions predicates).query.map fun conditions =>
          .bare " Where " ++ conditions := by
  cases predicates with
  | nil => exact absurd rfl filled
  | cons first rest =>
      have render : (Clause.filter (first :: rest)).render
          = (" Where " ++ ·) <$> (Clause.conditions (first :: rest)).render := by
        simp only [Clause.render, renderWhere, renderPredicates, map_bind, map_pure, bind_assoc,
          pure_bind]
        rfl
      rw [query, render, Render.query_map]
      rfl

/-- Conditions in parentheses with their keyword. -/
theorem Clause.query_filter_group (combinator : Combinator) (predicates : List Predicate) :
    (Clause.filter [.group combinator predicates]).query
      = (Clause.conditions predicates).query.map fun conditions =>
          .bare " Where (" ++ conditions ++ .bare ")" := by
  have inner : (Clause.conditions [.group combinator predicates]).render
      = (fun text => "(" ++ text ++ ")") <$> (Clause.conditions predicates).render :=
    (renderPredicates_inOrder.text_singleton _).trans (Predicate.render_group combinator predicates)
  rw [query_filter (List.cons_ne_nil _ _), query, inner, Render.query_map, query]
  cases (Clause.conditions predicates).render.query with
  | error e => rfl
  | ok conditions =>
      simp only [Except.map, Query.append_eq, Query.bare, List.nil_append, List.append_nil,
        ← String.append_assoc]
      rfl

namespace Filterable

theorem predicates_filterEach (target : Filterable) (steps : List WhereStep) :
    (target.filterEach steps).predicates = target.predicates ++ wherePredicates steps := by
  rw [filterEach_eq, predicates_extend]

/-- A group differs from its contents in the parentheses only, and is left out if they are empty. -/
theorem filter_group {target : Filterable} (unfiltered : target.predicates = [])
    (combinator : Combinator) (steps : List WhereStep) :
    target.filter (.group combinator steps)
      = (target.filterEach steps).withPredicates
          (parenthesized combinator (target.filterEach steps).predicates) := by
  have contents : parenthesized combinator (target.filterEach steps).predicates
      = target.predicates ++ (WhereStep.group combinator steps).addedPredicates := by
    rw [predicates_filterEach, unfiltered]
    rfl
  rw [contents, filter_eq, filterEach_eq]
  exact target.extend_eq_withPredicates _ _ _

/-- Taking steps in a group means what taking them directly means. The same operator is refused,
the same values are bound, and if one of the two fails, the other one fails in the same way. If
the steps add nothing, the group adds nothing either, and otherwise the conditions stand in
parentheses, in the place where they stand without. -/
theorem group_means_contents (target : Filterable) (unfiltered : target.predicates = [])
    (combinator : Combinator) (steps : List WhereStep) :
    let direct := target.filterEach steps
    let grouped := target.filter (.group combinator steps)
    let conditions := (Clause.conditions direct.predicates).query
    grouped.rejected = direct.rejected
      ∧ grouped.build.map Query.params = direct.build.map Query.params
      ∧ direct.build = direct.frame.fill (Clause.filter direct.predicates).query
      ∧ grouped.build = direct.frame.fill (Clause.filter grouped.predicates).query
      ∧ (direct.predicates = [] ↔ AddNothing steps)
      ∧ (AddNothing steps → grouped = direct)
      ∧ (¬AddNothing steps →
        (Clause.filter direct.predicates).query = conditions.map (.bare " Where " ++ ·)
        ∧ (Clause.filter grouped.predicates).query
          = conditions.map (.bare " Where (" ++ · ++ .bare ")")) := by
  intro direct grouped conditions
  have parentheses : grouped
      = direct.withPredicates (parenthesized combinator direct.predicates) :=
    filter_group unfiltered combinator steps
  have empty : direct.predicates = [] ↔ AddNothing steps := by
    rw [predicates_filterEach, unfiltered, List.nil_append, wherePredicates_eq_nil]
  have nothing (none : AddNothing steps) : grouped = direct := by
    have absent : parenthesized combinator direct.predicates = direct.predicates := by
      rw [empty.2 none]
      rfl
    rw [parentheses, absent, withPredicates_self]
  have texts (some : ¬AddNothing steps) :
      (Clause.filter direct.predicates).query = conditions.map (.bare " Where " ++ ·)
      ∧ (Clause.filter grouped.predicates).query
        = conditions.map (.bare " Where (" ++ · ++ .bare ")") := by
    have filled : direct.predicates ≠ [] := fun none => some (empty.1 none)
    have inner : grouped.predicates = [.group combinator direct.predicates] := by
      rw [parentheses, predicates_withPredicates]
      cases shape : direct.predicates with
      | nil => exact absurd shape filled
      | cons first rest => rfl
    rw [inner]
    exact ⟨Clause.query_filter filled, Clause.query_filter_group combinator direct.predicates⟩
  have built : grouped.build = direct.frame.fill (Clause.filter grouped.predicates).query := by
    rw [parentheses, build_withPredicates, predicates_withPredicates]
  refine ⟨?_, ?_, direct.build_eq, built, empty, nothing, texts⟩
  · rw [parentheses, rejected_withPredicates]
  · by_cases none : AddNothing steps
    · rw [nothing none]
    · obtain ⟨plain, enclosed⟩ := texts none
      rw [built, direct.build_eq, plain, enclosed]
      -- the parentheses bind nothing
      refine direct.frame.params_fill ?_
      cases conditions with
      | error e => rfl
      | ok text =>
          show Except.ok ([] ++ text.params ++ []) = Except.ok ([] ++ text.params)
          rw [List.append_nil]

/-- In an update, a group in a group; and steps that add nothing and refuse an operator. -/
theorem group_means_contents_update :
    let target := update { table := .named "t", assignments := [("a", .value (.int 1))] }
    let steps := [WhereStep.isIn .and "b" [],
      .group .or [.equal .or "c" (.value (.int 2)), .isNull .or "d"]]
    let idle := [WhereStep.isIn .and "b" [],
      .group .or [.equalEach .and [], .compare .and "d" "~" (.value .null)]]
    target.predicates = [] ∧ ¬AddNothing steps ∧ AddNothing idle
      ∧ (target.filterEach steps).build
        = .ok ⟨"Update `t` Set `a` = ? Where (`c` = ? Or `d` Is Null)", [.int 1, .int 2]⟩
      ∧ (target.filter (.group .or steps)).build
        = .ok ⟨"Update `t` Set `a` = ? Where ((`c` = ? Or `d` Is Null))", [.int 1, .int 2]⟩
      ∧ (target.filterEach idle).rejected = some "~"
      ∧ target.filter (.group .or idle) = target.filterEach idle := by
  intro target steps idle
  have some : ¬AddNothing steps := by simp [steps, AddNothing, WhereStep.AddsNothing]
  have none : AddNothing idle := by
    simp only [idle, AddNothing, WhereStep.AddsNothing]
    decide
  obtain ⟨-, -, direct, grouped, -, -, texts⟩ := target.group_means_contents rfl .or steps
  obtain ⟨plain, enclosed⟩ := texts some
  obtain ⟨-, -, -, -, -, nothing, -⟩ := target.group_means_contents rfl .or idle
  refine ⟨rfl, some, none, ?_, ?_, rfl, nothing none⟩
  · rw [direct, plain]
    rfl
  · rw [grouped, enclosed]
    rfl

end Filterable

end SqlBuilder
