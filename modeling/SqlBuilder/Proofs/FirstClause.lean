import Mathlib.Data.List.Induction
import SqlBuilder.Proofs.Render.Alone

set_option autoImplicit false

/-! # The first condition of a list has no keyword

Conditions on rows and comparisons of a join are written one after the other, each but the first
with the keyword of its combinator in front. So two lists one after the other are written as the
first list, the keyword of the first condition of the second list, and the second list; and the
combinator of a first condition is never written, in parentheses at any depth. -/

namespace SqlBuilder

/-! ## Lists of conditions -/

theorem conditionText_singleton (part : Combinator × String) : conditionText [part] = part.2 := by
  simp [conditionText]

/-- Of the first of two lists only the texts matter, and of the second one the first keyword too. -/
theorem conditionText_append {parts : List (Combinator × String)} (filled : parts ≠ [])
    (next : Combinator × String) (others : List (Combinator × String)) :
    conditionText (parts ++ next :: others)
      = conditionText parts
        ++ (" " ++ next.1.keyword ++ " " ++ conditionText (next :: others)) := by
  cases parts with
  | nil => exact absurd rfl filled
  | cons first rest =>
      simp only [conditionText, List.cons_append, List.map_append, List.map_cons,
        String.join_append, String.join_cons, String.append_assoc]

section Lists

variable {α : Type}

/-- Conditions are rendered from the left to the right, each with its combinator. -/
structure RendersInOrder (combinator : α → Combinator) (body : α → Render String)
    (parts : List α → Render (List (Combinator × String))) : Prop where
  nil : parts [] = pure []
  cons : ∀ condition rest, parts (condition :: rest) = do
    let text ← body condition
    let rest ← parts rest
    return (combinator condition, text) :: rest

/-- A first condition without a keyword, and each later one with its own. -/
def withKeywords (combinator : α → Combinator) (body : α → Render String) (first : α)
    (rest : List α) : Render String :=
  rest.foldl
    (fun text condition =>
      text ++ (pure (" " ++ (combinator condition).keyword ++ " ") ++ body condition))
    (body first)

namespace RendersInOrder

variable {combinator : α → Combinator} {body : α → Render String}
  {parts : List α → Render (List (Combinator × String))}

theorem append (h : RendersInOrder combinator body parts) (first second : List α) :
    parts (first ++ second) = do
      let before ← parts first
      let after ← parts second
      return before ++ after := by
  induction first with
  | nil => simp only [List.nil_append, h.nil, pure_bind, bind_pure]
  | cons condition rest ih =>
      simp only [List.cons_append, h.cons, ih, bind_assoc, pure_bind]

theorem text_singleton (h : RendersInOrder combinator body parts) (condition : α) :
    conditionText <$> parts [condition] = body condition := by
  simp only [h.cons, h.nil, pure_bind, map_bind, map_pure, conditionText_singleton, bind_pure]

theorem text_append (h : RendersInOrder combinator body parts) (first next : α)
    (rest others : List α) :
    conditionText <$> parts (first :: rest ++ next :: others)
      = conditionText <$> parts (first :: rest)
        ++ (pure (" " ++ (combinator next).keyword ++ " ")
          ++ conditionText <$> parts (next :: others)) := by
  have texts (a b : Combinator × String) (as bs : List (Combinator × String)) :
      conditionText (a :: as ++ b :: bs)
        = conditionText (a :: as) ++ (" " ++ b.1.keyword ++ " " ++ conditionText (b :: bs)) :=
    conditionText_append (List.cons_ne_nil a as) b bs
  rw [h.append]
  simp only [h.cons, Render.append_eq, map_bind, map_pure, bind_assoc, pure_bind, texts]

theorem text_withKeywords (h : RendersInOrder combinator body parts) (first : α)
    (rest : List α) :
    conditionText <$> parts (first :: rest) = withKeywords combinator body first rest := by
  induction rest using List.reverseRecOn with
  | nil => exact h.text_singleton first
  | append_singleton rest last ih =>
      rw [← List.cons_append, h.text_append, h.text_singleton, ih]
      simp only [withKeywords, List.foldl_append, List.foldl_cons, List.foldl_nil]

/-- The combinator of the first condition is not written. -/
theorem text_first (h : RendersInOrder combinator body parts) (first first' : α)
    (bodies : body first = body first') (rest : List α) :
    conditionText <$> parts (first :: rest) = conditionText <$> parts (first' :: rest) := by
  rw [h.text_withKeywords, h.text_withKeywords, withKeywords, withKeywords, bodies]

end RendersInOrder

end Lists

theorem renderPredicates_inOrder :
    RendersInOrder Predicate.combinator Predicate.render renderPredicates :=
  ⟨by simp only [renderPredicates], fun _ _ => by simp only [renderPredicates]⟩

/-- A comparison of a join without its combinator. -/
def OnCondition.render (condition : OnCondition) : Render String :=
  renderKeys condition.column condition.operator condition.key

theorem renderOnParts_inOrder :
    RendersInOrder OnCondition.combinator OnCondition.render renderOnParts :=
  ⟨rfl, fun _ _ => rfl⟩

theorem Predicate.render_group (combinator : Combinator) (predicates : List Predicate) :
    (Predicate.group combinator predicates).render
      = (fun text => "(" ++ text ++ ")") <$> (conditionText <$> renderPredicates predicates) := by
  simp only [render, map_eq_pure_bind, bind_assoc, pure_bind]

/-! ## Other combinators -/

/-- The condition with another combinator. -/
def Predicate.withCombinator (combinator : Combinator) : Predicate → Predicate
  | compare _ column operator value => compare combinator column operator value
  | raw _ fragment => raw combinator fragment
  | group _ predicates => group combinator predicates

@[simp]
theorem Predicate.combinator_withCombinator (combinator : Combinator) (predicate : Predicate) :
    (predicate.withCombinator combinator).combinator = combinator := by
  cases predicate <;> rfl

@[simp]
theorem Predicate.render_withCombinator (combinator : Combinator) (predicate : Predicate) :
    (predicate.withCombinator combinator).render = predicate.render := by
  cases predicate <;> simp only [withCombinator, render]

/-- One condition gets another combinator: the first one of a list, or the first one in the
parentheses of some condition at any depth. -/
inductive Recombined : List Predicate → List Predicate → Prop
  | first (combinator : Combinator) (predicate : Predicate) (rest : List Predicate) :
      Recombined (predicate :: rest) (predicate.withCombinator combinator :: rest)
  | inside (before : List Predicate) (combinator : Combinator) {predicates others : List Predicate}
      (after : List Predicate) (inner : Recombined predicates others) :
      Recombined (before ++ .group combinator predicates :: after)
        (before ++ .group combinator others :: after)

theorem Recombined.render_eq {predicates others : List Predicate}
    (recombined : Recombined predicates others) :
    conditionText <$> renderPredicates predicates = conditionText <$> renderPredicates others := by
  induction recombined with
  | first combinator predicate rest =>
      exact renderPredicates_inOrder.text_first predicate (predicate.withCombinator combinator)
        (predicate.render_withCombinator combinator).symm rest
  | inside before combinator after inner ih =>
      -- the parentheses are written in the same way, and their own combinator is kept
      simp only [renderPredicates_inOrder.append, renderPredicates_inOrder.cons,
        Predicate.render_group, ih, Predicate.combinator]

/-! ## The law -/

/-- Two lists one after the other are written as the first one, the keyword of the first condition
of the second one, and the second one, with the values of both. If the first one fails, its error
is that of the whole, and otherwise that of the second one is. -/
def Clause.Concatenates {α : Type} (clause : List α → Clause) (combinator : α → Combinator) :
    Prop :=
  ∀ (first next : α) (rest others : List α),
    (clause (first :: rest ++ next :: others)).query = do
      let before ← (clause (first :: rest)).query
      let after ← (clause (next :: others)).query
      return before ++ .bare (" " ++ (combinator next).keyword ++ " ") ++ after

theorem RendersInOrder.concatenates {α : Type} {clause : List α → Clause}
    {combinator : α → Combinator} {body : α → Render String}
    {parts : List α → Render (List (Combinator × String))}
    (h : RendersInOrder combinator body parts)
    (rendered : ∀ conditions, (clause conditions).render = conditionText <$> parts conditions) :
    Clause.Concatenates clause combinator := by
  intro first next rest others
  have appends : ((clause (next :: others)).render).Appends := (clause _).render_appends
  rw [Clause.query, rendered, h.text_append, ← rendered, ← rendered,
    Render.query_append _ ((Render.Appends.pure _).append appends),
    Render.query_append _ appends, Render.query_pure]
  simp only [Clause.query, bind_assoc, pure_bind, Query.append_assoc]
  rfl

/-- Lists of conditions on rows, and lists of comparisons of a join, can be cut anywhere. The
first condition of a list has no keyword and each later one has its own, so another combinator of
the first one, in any parentheses too, changes nothing. -/
theorem Clause.first_clause_rule :
    Concatenates .conditions Predicate.combinator
    ∧ (∀ (first : Predicate) (rest : List Predicate), (Clause.conditions (first :: rest)).render
      = withKeywords Predicate.combinator Predicate.render first rest)
    ∧ (∀ predicates others : List Predicate, Recombined predicates others →
      (Clause.conditions predicates).render = (Clause.conditions others).render)
    ∧ Concatenates .joinConditions OnCondition.combinator
    ∧ (∀ (first : OnCondition) (rest : List OnCondition),
      (Clause.joinConditions (first :: rest)).render
        = withKeywords OnCondition.combinator OnCondition.render first rest)
    ∧ ∀ (combinator : Combinator) (first : OnCondition) (rest : List OnCondition),
      (Clause.joinConditions (first :: rest)).render
        = (Clause.joinConditions ({ first with combinator } :: rest)).render := by
  have comparisons (conditions : List OnCondition) : (Clause.joinConditions conditions).render
      = conditionText <$> renderOnParts conditions := by
    simp only [render, renderOn, map_eq_pure_bind]
  refine ⟨renderPredicates_inOrder.concatenates fun _ => rfl,
    renderPredicates_inOrder.text_withKeywords, fun _ _ recombined => recombined.render_eq,
    renderOnParts_inOrder.concatenates comparisons, fun first rest => ?_,
    fun combinator first rest => ?_⟩
  · rw [comparisons]
    exact renderOnParts_inOrder.text_withKeywords first rest
  · rw [comparisons, comparisons]
    exact renderOnParts_inOrder.text_first first { first with combinator } rfl rest

/-- A group and a list follow each other with the keyword of the list. The first combinators, of
the list of conditions and in the group, can be others. If a fragment without its name comes last,
the whole fails as it does. -/
theorem Clause.first_clause_rule_nested :
    let group (combinator : Combinator) := Predicate.group .and
      [.compare combinator (some "a") "=" (.value (.int 1)),
        .raw .or { sql := "b = ?", params := [.int 2] }]
    let list := Predicate.compare .or (some "c") "In" (.list [.value (.int 3), .value .null])
    let unnamed := Predicate.raw .and { sql := "??" }
    (Clause.conditions ([group .or] ++ list :: [])).query
        = .ok ⟨"(`a` = ? Or b = ?) Or `c` In (?, ?)", [.int 1, .int 2, .int 3, .null]⟩
      ∧ (Clause.conditions ([group .or, list] ++ unnamed :: [])).query = .error (.missingName 1)
      ∧ Recombined ([] ++ group .or :: [list]) ([] ++ group .and :: [list])
      ∧ (Clause.conditions [group .or, list]).render
        = (Clause.conditions [group .and, list]).render := by
  intro group list unnamed
  obtain ⟨law, -, first, -⟩ := first_clause_rule
  have inner : Recombined ([] ++ group .or :: [list]) ([] ++ group .and :: [list]) :=
    .inside [] .and [list] (.first .and _ _)
  refine ⟨?_, ?_, inner, first _ _ inner⟩
  · rw [law]
    rfl
  · exact (law (group .or) unnamed [list] []).trans rfl

end SqlBuilder
