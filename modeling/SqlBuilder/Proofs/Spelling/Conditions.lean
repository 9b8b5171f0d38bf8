import SqlBuilder.Proofs.Contributions
import SqlBuilder.Proofs.Render.Ensures
import SqlBuilder.Proofs.Slots

set_option autoImplicit false

/-! # How conditions are spelled

Conditions without fragments, calls and subqueries of the caller, and how they are spelled: by the
grammar of their text, together with the values that the text binds. What steps of these kinds add is
rendered as it is spelled. -/

namespace SqlBuilder

/-! ## Conditions without fragments, calls and subqueries -/

/-- A scalar or a list of such operands. -/
inductive Operand.Plain : Operand → Prop
  | value (v : Value) : Plain (.value v)
  | list {items : List Operand} (each : ∀ item ∈ items, item.Plain) : Plain (.list items)

mutual

/-- A condition in one of several shapes that is given plain operands only. -/
def Criteria.Plain : Criteria → Prop
  | .equal _ value => value.Plain
  | .compare _ _ value => value.Plain
  | .equalEach pairs => ∀ pair ∈ pairs, pair.2.Plain
  | .raw _ => False
  | .group steps => PlainSteps steps

/-- A step that is given plain operands only. -/
def WhereStep.Plain : WhereStep → Prop
  | .matching _ criteria => criteria.Plain
  | .equal _ _ value => value.Plain
  | .compare _ _ _ value => value.Plain
  | .equalEach _ pairs => ∀ pair ∈ pairs, pair.2.Plain
  | .raw _ _ => False
  | .group _ steps => PlainSteps steps
  | .isIn _ _ items => ∀ item ∈ items, item.Plain
  | .isNotIn _ _ items => ∀ item ∈ items, item.Plain
  | .inQuery _ _ _ => False
  | .notInQuery _ _ _ => False
  | .isNull _ _ => True
  | .isNotNull _ _ => True
  | .between _ _ _ _ => True
  | .notBetween _ _ _ _ => True
  | .hasRow _ _ => False
  | .hasNoRow _ _ => False

/-- Steps that are given plain operands only, in groups of any depth. -/
def PlainSteps : List WhereStep → Prop
  | [] => True
  | step :: rest => step.Plain ∧ PlainSteps rest

end

/-! ## The grammar -/

mutual

/-- How an operand is spelled, and the values that are bound in it. -/
inductive Operand.Spelled : Operand → List Char → List Value → Prop
  | value (v : Value) : Operand.Spelled (.value v) ['?'] [v]
  | list {items : List Operand} {text : List Char} {params : List Value}
      (inner : SpelledItems items text params) :
      Operand.Spelled (.list items) ('(' :: (text ++ [')'])) params

/-- How the items of a list are spelled. -/
inductive SpelledItems : List Operand → List Char → List Value → Prop
  | nil : SpelledItems [] [] []
  | single {item : Operand} {text : List Char} {params : List Value}
      (only : Operand.Spelled item text params) : SpelledItems [item] text params
  | cons {item next : Operand} {rest : List Operand} {text others : List Char}
      {params more : List Value} (first : Operand.Spelled item text params)
      (tail : SpelledItems (next :: rest) others more) :
      SpelledItems (item :: next :: rest) (text ++ ',' :: ' ' :: others) (params ++ more)

end

/-- How an operator and what it is applied to are spelled. -/
inductive SpelledTest : String → Operand → List Char → List Value → Prop
  | operand {operator : String} {value : Operand} {text : List Char} {params : List Value}
      (allowed : isAllowedOperator operator = true) (spelled : value.Spelled text params) :
      SpelledTest operator value (operator.toList ++ ' ' :: text) params
  | null {operator : String} (tests : operator = "Is" ∨ operator = "Is Not") :
      SpelledTest operator (.raw nullFragment) (operator.toList ++ " Null".toList) []
  | range {operator : String} (tests : operator = "Between" ∨ operator = "Not Between")
      (low high : Value) :
      SpelledTest operator (.raw (rangeFragment low high)) (operator.toList ++ " ? And ?".toList)
        [low, high]

mutual

/-- How a condition is spelled, without its combinator. -/
inductive Predicate.Spelled : Predicate → List Char → List Value → Prop
  | compare (combinator : Combinator) (column : String) {operator : String} {value : Operand}
      {text : List Char} {params : List Value} (test : SpelledTest operator value text params) :
      Predicate.Spelled (.compare combinator (some column) operator value)
        ((escape column).toList ++ ' ' :: text) params
  | group (combinator : Combinator) {predicates : List Predicate} {text : List Char}
      {params : List Value} (inner : SpelledConditions predicates text params) :
      Predicate.Spelled (.group combinator predicates) ('(' :: (text ++ [')'])) params

/-- How conditions are spelled. The combinator of the first one is not. -/
inductive SpelledConditions : List Predicate → List Char → List Value → Prop
  | single {predicate : Predicate} {text : List Char} {params : List Value}
      (only : Predicate.Spelled predicate text params) : SpelledConditions [predicate] text params
  | cons {predicate next : Predicate} {rest : List Predicate} {text others : List Char}
      {params more : List Value} (first : Predicate.Spelled predicate text params)
      (tail : SpelledConditions (next :: rest) others more) :
      SpelledConditions (predicate :: next :: rest)
        (text ++ ' ' :: (next.combinator.keyword.toList ++ ' ' :: others)) (params ++ more)

end

/-! ## Plain operands are rendered as they are spelled -/

open Render

theorem renderValues_spelled {items : List Operand}
    (each : ∀ item ∈ items, item.renderValue.Succeeds fun sql params => item.Spelled sql.toList params) :
    (renderValues items).Succeeds fun texts params =>
      texts.length = items.length ∧ SpelledItems items (commas texts).toList params := by
  induction items with
  | nil =>
      simp only [renderValues]
      exact .pure ⟨rfl, .nil⟩
  | cons item rest ih =>
      obtain ⟨first, others⟩ := List.forall_mem_cons.1 each
      simp only [renderValues]
      refine first.bind fun text params spelled => ?_
      refine (ih others).bind_pure fun texts more spelledRest => ?_
      obtain ⟨lengths, tail⟩ := spelledRest
      refine ⟨by rw [List.length_cons, lengths, List.length_cons], ?_⟩
      cases rest with
      | nil =>
          obtain rfl := List.length_eq_zero_iff.1 lengths
          cases tail
          simpa [commas] using SpelledItems.single spelled
      | cons next rest =>
          cases texts with
          | nil => cases lengths
          | cons second texts =>
              have text : (commas (text :: second :: texts)).toList
                  = text.toList ++ ',' :: ' ' :: (commas (second :: texts)).toList := by
                simp [commas, String.intercalate_cons_cons]
              rw [text]
              exact .cons spelled tail

theorem Operand.Plain.spelled {operand : Operand} (plain : operand.Plain) :
    operand.renderValue.Succeeds fun sql params => operand.Spelled sql.toList params := by
  induction plain with
  | value v =>
      simp only [renderValue]
      refine (Succeeds.placeholder v).mono fun sql params bound => ?_
      obtain ⟨rfl, rfl⟩ := bound
      exact .value v
  | list each ih =>
      simp only [renderValue]
      refine (renderValues_spelled ih).bind_pure fun texts params spelled => ?_
      have text : ("(" ++ commas texts ++ ")").toList = '(' :: ((commas texts).toList ++ [')']) := by
        simp
      rw [text]
      exact .list spelled.2

/-! ## Conditions are rendered as they are spelled -/

/-- A condition that is rendered as it is spelled. -/
def Predicate.Regular (predicate : Predicate) : Prop :=
  predicate.render.Succeeds fun sql params => predicate.Spelled sql.toList params

theorem Predicate.Regular.compare (combinator : Combinator) (column operator : String)
    {value : Operand}
    (test : value.renderValue.Succeeds fun sql params =>
      SpelledTest operator value (operator.toList ++ ' ' :: sql.toList) params) :
    (Predicate.compare combinator (some column) operator value).Regular := by
  unfold Regular
  simp only [render]
  refine test.bind_pure fun sql params spelled => ?_
  have text : (escape column ++ " " ++ operator ++ " " ++ sql).toList
      = (escape column).toList ++ ' ' :: (operator.toList ++ ' ' :: sql.toList) := by
    simp
  rw [text]
  exact .compare combinator column spelled

theorem Predicate.Regular.operand (combinator : Combinator) (column : String) {operator : String}
    (allowed : isAllowedOperator operator = true) {value : Operand} (plain : value.Plain) :
    (Predicate.compare combinator (some column) operator value).Regular :=
  compare combinator column operator
    (plain.spelled.mono fun _ _ spelled => .operand allowed spelled)

theorem Predicate.Regular.null (combinator : Combinator) (column : String) {operator : String}
    (tests : operator = "Is" ∨ operator = "Is Not") :
    (Predicate.compare combinator (some column) operator (.raw nullFragment)).Regular := by
  refine compare combinator column operator ?_
  simp only [Operand.renderValue]
  refine (Succeeds.fragment expand_nullFragment).mono fun sql params expanded => ?_
  obtain ⟨rfl, rfl⟩ := expanded
  exact .null tests

theorem Predicate.Regular.range (combinator : Combinator) (column : String) {operator : String}
    (tests : operator = "Between" ∨ operator = "Not Between") (low high : Value) :
    (Predicate.compare combinator (some column) operator
      (.raw (rangeFragment low high))).Regular := by
  refine compare combinator column operator ?_
  simp only [Operand.renderValue]
  refine (Succeeds.fragment (expand_rangeFragment low high)).mono fun sql params expanded => ?_
  obtain ⟨rfl, rfl⟩ := expanded
  exact .range tests low high

theorem renderPredicates_spelled {predicates : List Predicate} (filled : predicates ≠ [])
    (each : ∀ predicate ∈ predicates, predicate.Regular) :
    (renderPredicates predicates).Succeeds fun parts params =>
      parts.map (·.1) = predicates.map Predicate.combinator
        ∧ SpelledConditions predicates (conditionText parts).toList params := by
  induction predicates with
  | nil => exact absurd rfl filled
  | cons predicate rest ih =>
      obtain ⟨first, others⟩ := List.forall_mem_cons.1 each
      simp only [renderPredicates]
      refine first.bind fun text params spelled => ?_
      cases rest with
      | nil =>
          simp only [renderPredicates, pure_bind]
          refine .pure ⟨rfl, ?_⟩
          simpa [conditionText] using SpelledConditions.single spelled
      | cons next rest =>
          refine (ih (List.cons_ne_nil next rest) others).bind_pure fun parts more spelledRest => ?_
          obtain ⟨combinators, tail⟩ := spelledRest
          refine ⟨by rw [List.map_cons, combinators]; rfl, ?_⟩
          cases parts with
          | nil => cases combinators
          | cons part parts =>
              have combinator : part.1 = next.combinator := (List.cons.inj combinators).1
              have text : (conditionText ((predicate.combinator, text) :: part :: parts)).toList
                  = text.toList ++ ' ' :: (next.combinator.keyword.toList
                    ++ ' ' :: (conditionText (part :: parts)).toList) := by
                simp [conditionText, ← combinator]
              rw [text]
              exact .cons spelled tail

theorem Predicate.Regular.group (combinator : Combinator) {predicates : List Predicate}
    (filled : predicates ≠ []) (each : ∀ predicate ∈ predicates, predicate.Regular) :
    (Predicate.group combinator predicates).Regular := by
  unfold Regular
  simp only [render]
  refine (renderPredicates_spelled filled each).bind_pure fun parts params spelled => ?_
  have text : ("(" ++ conditionText parts ++ ")").toList
      = '(' :: ((conditionText parts).toList ++ [')']) := by
    simp
  rw [text]
  exact .group combinator spelled.2

/-! ## Plain steps add conditions that are rendered as they are spelled -/

theorem comparison_regular (combinator : Combinator) (column operator : String) {value : Operand}
    (plain : value.Plain) :
    ∀ predicate ∈ comparison combinator column operator value, predicate.Regular := by
  unfold comparison
  by_cases allowed : isAllowedOperator operator = true
  · rw [if_pos allowed, List.forall_mem_singleton]
    exact .operand combinator column allowed plain
  · rw [if_neg allowed]
    exact List.forall_mem_nil _

theorem listTest_regular (combinator : Combinator) (column : String) {operator : String}
    (allowed : isAllowedOperator operator = true) {items : List Operand}
    (plain : ∀ item ∈ items, item.Plain) :
    ∀ predicate ∈ listTest combinator column operator items, predicate.Regular := by
  cases items with
  | nil => exact List.forall_mem_nil _
  | cons item rest =>
      exact List.forall_mem_singleton.2 (.operand combinator column allowed (.list plain))

theorem equalities_regular (combinator : Combinator) {pairs : List (String × Operand)}
    (plain : ∀ pair ∈ pairs, pair.2.Plain) :
    ∀ predicate ∈ equalities combinator pairs, predicate.Regular := by
  intro predicate mem
  obtain ⟨pair, given, rfl⟩ := List.mem_map.1 mem
  exact .operand combinator pair.1 (by decide) (plain pair given)

theorem parenthesized_regular (combinator : Combinator) {predicates : List Predicate}
    (inner : ∀ predicate ∈ predicates, predicate.Regular) :
    ∀ predicate ∈ parenthesized combinator predicates, predicate.Regular := by
  cases predicates with
  | nil => exact List.forall_mem_nil _
  | cons first rest =>
      exact List.forall_mem_singleton.2 (.group combinator (List.cons_ne_nil first rest) inner)

mutual

theorem Criteria.addedPredicates_regular (combinator : Combinator) :
    ∀ criteria : Criteria, criteria.Plain →
      ∀ predicate ∈ criteria.addedPredicates combinator, predicate.Regular
  | .equal column value, plain => by
      simp only [Criteria.Plain, Criteria.addedPredicates, List.forall_mem_singleton] at plain ⊢
      exact .operand combinator column (by decide) plain
  | .compare column operator value, plain => by
      simp only [Criteria.Plain, Criteria.addedPredicates] at plain ⊢
      exact comparison_regular combinator column operator plain
  | .equalEach pairs, plain => by
      simp only [Criteria.Plain, Criteria.addedPredicates] at plain ⊢
      exact equalities_regular combinator plain
  | .raw fragment, plain => by
      simp only [Criteria.Plain] at plain
  | .group steps, plain => by
      simp only [Criteria.Plain, Criteria.addedPredicates] at plain ⊢
      exact parenthesized_regular combinator (wherePredicates_regular steps plain)

theorem WhereStep.addedPredicates_regular :
    ∀ step : WhereStep, step.Plain → ∀ predicate ∈ step.addedPredicates, predicate.Regular
  | .matching combinator criteria, plain => by
      simp only [WhereStep.Plain, WhereStep.addedPredicates] at plain ⊢
      exact Criteria.addedPredicates_regular combinator criteria plain
  | .equal combinator column value, plain => by
      simp only [WhereStep.Plain, WhereStep.addedPredicates, List.forall_mem_singleton] at plain ⊢
      exact .operand combinator column (by decide) plain
  | .compare combinator column operator value, plain => by
      simp only [WhereStep.Plain, WhereStep.addedPredicates] at plain ⊢
      exact comparison_regular combinator column operator plain
  | .equalEach combinator pairs, plain => by
      simp only [WhereStep.Plain, WhereStep.addedPredicates] at plain ⊢
      exact equalities_regular combinator plain
  | .group combinator steps, plain => by
      simp only [WhereStep.Plain, WhereStep.addedPredicates] at plain ⊢
      exact parenthesized_regular combinator (wherePredicates_regular steps plain)
  | .isIn combinator column items, plain => by
      simp only [WhereStep.Plain, WhereStep.addedPredicates] at plain ⊢
      exact listTest_regular combinator column (by decide) plain
  | .isNotIn combinator column items, plain => by
      simp only [WhereStep.Plain, WhereStep.addedPredicates] at plain ⊢
      exact listTest_regular combinator column (by decide) plain
  | .isNull combinator column, _ => by
      simp only [WhereStep.addedPredicates, List.forall_mem_singleton]
      exact .null combinator column (.inl rfl)
  | .isNotNull combinator column, _ => by
      simp only [WhereStep.addedPredicates, List.forall_mem_singleton]
      exact .null combinator column (.inr rfl)
  | .between combinator column low high, _ => by
      simp only [WhereStep.addedPredicates, List.forall_mem_singleton]
      exact .range combinator column (.inl rfl) low high
  | .notBetween combinator column low high, _ => by
      simp only [WhereStep.addedPredicates, List.forall_mem_singleton]
      exact .range combinator column (.inr rfl) low high
  | .raw combinator fragment, plain => by
      simp only [WhereStep.Plain] at plain
  | .inQuery combinator column select, plain => by
      simp only [WhereStep.Plain] at plain
  | .notInQuery combinator column select, plain => by
      simp only [WhereStep.Plain] at plain
  | .hasRow combinator select, plain => by
      simp only [WhereStep.Plain] at plain
  | .hasNoRow combinator select, plain => by
      simp only [WhereStep.Plain] at plain

theorem wherePredicates_regular :
    ∀ steps : List WhereStep, PlainSteps steps →
      ∀ predicate ∈ wherePredicates steps, predicate.Regular
  | [], _ => by
      simp only [wherePredicates]
      exact List.forall_mem_nil _
  | step :: rest, plain => by
      simp only [PlainSteps, wherePredicates, List.forall_mem_append] at plain ⊢
      exact ⟨WhereStep.addedPredicates_regular step plain.1, wherePredicates_regular rest plain.2⟩

end

end SqlBuilder
