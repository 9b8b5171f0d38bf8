import SqlBuilder.Proofs.Spelling.Conditions
import SqlBuilder.Proofs.Spelling.Names

set_option autoImplicit false

/-! # The text of conditions can be read in one way only

Two spelled conditions whose texts begin alike, and whose values do, are the same conditions, and what
follows them is the same. The induction is on how the first is spelled. It carries what may follow: a
list of items or conditions ends before `)` or at the end of the text, and after a condition never comes
the second half of a range. -/

namespace SqlBuilder

/-! ## Conditions that read alike -/

mutual

/-- Conditions that are equal but for their combinators, for names that are written in the same way,
and for the first combinator in parentheses at any depth. -/
inductive Predicate.Alike : Predicate → Predicate → Prop
  | compare (combinator combinator' : Combinator) {column column' : String}
      (names : escape column = escape column') (operator : String) (value : Operand) :
      Predicate.Alike (.compare combinator (some column) operator value)
        (.compare combinator' (some column') operator value)
  | group (combinator combinator' : Combinator) {predicates predicates' : List Predicate}
      (inner : ConditionsAlike predicates predicates') :
      Predicate.Alike (.group combinator predicates) (.group combinator' predicates')

/-- Lists of conditions that are alike one by one, and have the same combinators from the second
one on. -/
inductive ConditionsAlike : List Predicate → List Predicate → Prop
  | nil : ConditionsAlike [] []
  | cons {predicate predicate' : Predicate} {rest rest' : List Predicate}
      (first : Predicate.Alike predicate predicate') (others : JoinedAlike rest rest') :
      ConditionsAlike (predicate :: rest) (predicate' :: rest')

/-- Lists of conditions that are alike one by one and have the same combinators. -/
inductive JoinedAlike : List Predicate → List Predicate → Prop
  | nil : JoinedAlike [] []
  | cons {predicate predicate' : Predicate} {rest rest' : List Predicate}
      (combinators : predicate.combinator = predicate'.combinator)
      (first : Predicate.Alike predicate predicate') (others : JoinedAlike rest rest') :
      JoinedAlike (predicate :: rest) (predicate' :: rest')

end

/-! ## Operands -/

theorem Operand.Spelled.opens {operand : Operand} {text : List Char} {params : List Value}
    (spelled : operand.Spelled text params) :
    ∃ c rest, text = c :: rest ∧ opensOperand c = true := by
  cases spelled with
  | value v => exact ⟨'?', [], rfl, rfl⟩
  | list inner => exact ⟨'(', _, rfl, rfl⟩

/-- A list that is followed by what closes it has no items if it is closed at once. -/
theorem SpelledItems.closed {items : List Operand} {t r s : List Char} {p : List Value}
    (spelled : SpelledItems items t p) (texts : t ++ ')' :: r = ')' :: s) :
    items = [] ∧ t = [] ∧ p = [] := by
  have opened {c : Char} {t r : List Char} (opens : opensOperand c = true)
      (texts : (c :: t) ++ r = ')' :: s) : False := by
    obtain ⟨rfl, -⟩ := List.cons.inj texts
    cases opens
  cases spelled with
  | nil => exact ⟨rfl, rfl, rfl⟩
  | single only =>
      obtain ⟨c, rest, rfl, opens⟩ := only.opens
      exact (opened opens texts).elim
  | cons first tail =>
      obtain ⟨c, rest, rfl, opens⟩ := first.opens
      rw [List.append_assoc] at texts
      exact (opened opens texts).elim

mutual

theorem Operand.Spelled.unique {a b : Operand} {t u r s : List Char} {p q x y : List Value}
    (first : a.Spelled t p) (second : b.Spelled u q) (texts : t ++ r = u ++ s)
    (params : p ++ x = q ++ y) : a = b ∧ r = s ∧ x = y := by
  cases first with
  | value v =>
      cases second with
      | value w =>
          obtain ⟨rfl, values⟩ := List.cons.inj params
          exact ⟨rfl, (List.cons.inj texts).2, values⟩
      | list inner => cases texts
  | list inner =>
      cases second with
      | value w => cases texts
      | list inner' =>
          simp only [List.cons_append, List.append_assoc] at texts
          obtain ⟨rfl, rests, values⟩ := inner.unique inner' (List.cons.inj texts).2 params
          exact ⟨rfl, rests, values⟩

theorem SpelledItems.unique {as bs : List Operand} {t u r s : List Char} {p q x y : List Value}
    (first : SpelledItems as t p) (second : SpelledItems bs u q)
    (texts : t ++ ')' :: r = u ++ ')' :: s) (params : p ++ x = q ++ y) :
    as = bs ∧ r = s ∧ x = y := by
  cases first with
  | nil =>
      obtain ⟨rfl, rfl, rfl⟩ := second.closed texts.symm
      exact ⟨rfl, (List.cons.inj texts).2, params⟩
  | single only =>
      cases second with
      | nil => cases (SpelledItems.single only).closed texts |>.1
      | single only' =>
          obtain ⟨rfl, rests, values⟩ := only.unique only' texts params
          exact ⟨rfl, (List.cons.inj rests).2, values⟩
      | cons item tail =>
          -- the list cannot both end and go on after its first item
          rw [List.append_assoc] at texts params
          obtain ⟨-, rests, -⟩ := only.unique item texts params
          cases rests
  | cons item tail =>
      cases second with
      | nil => cases (SpelledItems.cons item tail).closed texts |>.1
      | single only =>
          rw [List.append_assoc] at texts params
          obtain ⟨-, rests, -⟩ := item.unique only texts params
          cases rests
      | cons item' tail' =>
          rw [List.append_assoc, List.append_assoc] at texts params
          obtain ⟨rfl, rests, values⟩ := item.unique item' texts params
          have others := (List.cons.inj (List.cons.inj rests).2).2
          obtain ⟨same, rests, values⟩ := tail.unique tail' others values
          exact ⟨by rw [same], rests, values⟩

end

/-! ## Tests -/

/-- What may follow a condition: anything but the second half of a range. -/
def Follows (rest : List Char) : Prop :=
  ¬" And ?".toList <+: rest

theorem SpelledTest.operand_ne_null {operator test : String} {value : Operand}
    {text r s : List Char} {params : List Value} (allowed : isAllowedOperator operator = true)
    (spelled : value.Spelled text params) (tests : test = "Is" ∨ test = "Is Not") :
    operator.toList ++ ' ' :: text ++ r ≠ test.toList ++ " Null".toList ++ s := by
  intro texts
  obtain ⟨c, rest, rfl, opens⟩ := spelled.opens
  rw [opensOperand, Bool.or_eq_true, beq_iff_eq, beq_iff_eq] at opens
  have apart : ¬test.toList ++ " Null".toList <+: operator.toList ++ ' ' :: [c] ++ (rest ++ r) := by
    rcases tests with rfl | rfl <;> rcases opens with rfl | rfl <;>
      exact operator_apart allowed _ _ (by decide) _
  have same : operator.toList ++ ' ' :: [c] ++ (rest ++ r)
      = operator.toList ++ ' ' :: c :: rest ++ r := by
    simp
  rw [same, texts] at apart
  exact apart ⟨s, rfl⟩

theorem SpelledTest.operand_ne_range {operator test : String} {value : Operand}
    {text r s : List Char} {params : List Value} (allowed : isAllowedOperator operator = true)
    (spelled : value.Spelled text params) (tests : test = "Between" ∨ test = "Not Between")
    (follows : Follows r) :
    operator.toList ++ ' ' :: text ++ r ≠ test.toList ++ " ? And ?".toList ++ s := by
  intro texts
  have listed : isAllowedOperator test = true := by
    rcases tests with rfl | rfl <;> decide
  obtain ⟨c, rest, rfl, opens⟩ := spelled.opens
  rw [List.append_assoc, List.append_assoc] at texts
  obtain ⟨-, operands⟩ := operator_ends (c := c) (d := '?') allowed listed opens rfl texts
  cases spelled with
  | value v => exact follows ⟨s, ((List.cons.inj operands).2).symm⟩
  | list inner => cases operands

theorem SpelledTest.null_ne_range {test test' : String} {r s : List Char}
    (tests : test = "Is" ∨ test = "Is Not") (tests' : test' = "Between" ∨ test' = "Not Between") :
    test.toList ++ " Null".toList ++ r ≠ test'.toList ++ " ? And ?".toList ++ s := by
  rcases tests with rfl | rfl <;> rcases tests' with rfl | rfl <;> exact nofun

theorem SpelledTest.unique {o o' : String} {a b : Operand} {t u r s : List Char}
    {p q x y : List Value} (first : SpelledTest o a t p) (second : SpelledTest o' b u q)
    (texts : t ++ r = u ++ s) (params : p ++ x = q ++ y) (hr : Follows r) (hs : Follows s) :
    o = o' ∧ a = b ∧ r = s ∧ x = y := by
  cases first with
  | operand allowed spelled =>
      cases second with
      | operand allowed' spelled' =>
          obtain ⟨c, rest, rfl, opens⟩ := spelled.opens
          obtain ⟨c', rest', rfl, opens'⟩ := spelled'.opens
          rw [List.append_assoc, List.append_assoc] at texts
          obtain ⟨rfl, operands⟩ := operator_ends allowed allowed' opens opens' texts
          exact ⟨rfl, spelled.unique spelled' operands params⟩
      | null tests => exact (operand_ne_null allowed spelled tests texts).elim
      | range tests low high => exact (operand_ne_range allowed spelled tests hr texts).elim
  | null tests =>
      cases second with
      | operand allowed spelled => exact (operand_ne_null allowed spelled tests texts.symm).elim
      | null tests' =>
          rcases tests with rfl | rfl <;> rcases tests' with rfl | rfl <;> cases texts <;>
            exact ⟨rfl, rfl, rfl, params⟩
      | range tests' low high => exact (null_ne_range tests tests' texts).elim
  | range tests low high =>
      cases second with
      | operand allowed spelled =>
          exact (operand_ne_range allowed spelled tests hs texts.symm).elim
      | null tests' => exact (null_ne_range tests' tests texts.symm).elim
      | range tests' low' high' =>
          cases params
          rcases tests with rfl | rfl <;> rcases tests' with rfl | rfl <;> cases texts <;>
            exact ⟨rfl, rfl, rfl, rfl⟩

/-! ## Conditions -/

theorem SpelledTest.not_alias {operator : String} {value : Operand} {text : List Char}
    {params : List Value} (spelled : SpelledTest operator value text params) (rest : List Char) :
    ¬['a', 's', ' '] <+: text ++ rest := by
  cases spelled with
  | operand allowed spelled =>
      rw [List.append_assoc]
      exact not_alias_of_allowed allowed _
  | null tests =>
      rw [List.append_assoc]
      exact not_alias_of_allowed (by rcases tests with rfl | rfl <;> decide) _
  | range tests low high =>
      rw [List.append_assoc]
      exact not_alias_of_allowed (by rcases tests with rfl | rfl <;> decide) _

theorem Predicate.Spelled.begins {predicate : Predicate} {text : List Char} {params : List Value}
    (spelled : predicate.Spelled text params) : ∃ c rest, text = c :: rest ∧ c ≠ '?' := by
  cases spelled with
  | compare combinator column test =>
      obtain ⟨rest, name⟩ := Quoted.name column
      exact ⟨delimiter, _, by rw [name, List.cons_append], by decide⟩
  | group combinator inner => exact ⟨'(', _, rfl, by decide⟩

theorem SpelledConditions.begins {predicates : List Predicate} {text : List Char}
    {params : List Value} (spelled : SpelledConditions predicates text params) :
    ∃ c rest, text = c :: rest ∧ c ≠ '?' := by
  cases spelled with
  | single only => exact only.begins
  | cons first tail =>
      obtain ⟨c, rest, rfl, other⟩ := first.begins
      exact ⟨c, _, rfl, other⟩

/-- What may follow a list of conditions: nothing, or what closes the list. -/
def Ends (rest : List Char) : Prop :=
  ∀ c ∈ rest.head?, c = ')'

theorem Ends.closing (rest : List Char) : Ends (')' :: rest) :=
  fun _ first => (Option.some.inj first).symm

theorem Ends.follows {rest : List Char} (ends : Ends rest) : Follows rest := by
  rintro ⟨after, rfl⟩
  cases ends ' ' rfl

/-- A condition may be followed by another one. -/
theorem SpelledConditions.follows {predicates : List Predicate} {text : List Char}
    {params : List Value} (spelled : SpelledConditions predicates text params)
    (combinator : Combinator) (rest : List Char) :
    Follows (' ' :: (combinator.keyword.toList ++ ' ' :: (text ++ rest))) := by
  obtain ⟨c, more, rfl, other⟩ := spelled.begins
  rintro ⟨after, same⟩
  cases combinator with
  | and =>
      simp [Combinator.keyword] at same
      exact other same.1.symm
  | or => simp [Combinator.keyword] at same

theorem keyword_ends {combinator combinator' : Combinator} {t u : List Char}
    (same : combinator.keyword.toList ++ ' ' :: t = combinator'.keyword.toList ++ ' ' :: u) :
    combinator = combinator' ∧ t = u := by
  cases combinator <;> cases combinator' <;> cases same <;> exact ⟨rfl, rfl⟩

mutual

theorem Predicate.Spelled.unique {a b : Predicate} {t u r s : List Char} {p q x y : List Value}
    (first : a.Spelled t p) (second : b.Spelled u q) (texts : t ++ r = u ++ s)
    (params : p ++ x = q ++ y) (hr : Follows r) (hs : Follows s) :
    a.Alike b ∧ r = s ∧ x = y := by
  cases first with
  | compare combinator column test =>
      cases second with
      | compare combinator' column' test' =>
          rw [List.append_assoc, List.append_assoc, List.cons_append, List.cons_append] at texts
          obtain ⟨names, tests⟩ := name_ends (test.not_alias r) (test'.not_alias s) texts
          obtain ⟨rfl, rfl, rests, values⟩ := test.unique test' tests params hr hs
          exact ⟨.compare combinator combinator' names _ _, rests, values⟩
      | group combinator' inner =>
          obtain ⟨rest, name⟩ := Quoted.name column
          rw [name] at texts
          cases texts
  | group combinator inner =>
      cases second with
      | compare combinator' column test =>
          obtain ⟨rest, name⟩ := Quoted.name column
          rw [name] at texts
          cases texts
      | group combinator' inner' =>
          simp only [List.cons_append, List.append_assoc] at texts
          obtain ⟨alike, rests, values⟩ := inner.unique inner' (List.cons.inj texts).2 params
            (.closing _) (.closing _)
          exact ⟨.group combinator combinator' alike, (List.cons.inj rests).2, values⟩

theorem SpelledConditions.unique {as bs : List Predicate} {t u r s : List Char}
    {p q x y : List Value} (first : SpelledConditions as t p) (second : SpelledConditions bs u q)
    (texts : t ++ r = u ++ s) (params : p ++ x = q ++ y) (hr : Ends r) (hs : Ends s) :
    ConditionsAlike as bs ∧ r = s ∧ x = y := by
  cases first with
  | single only =>
      cases second with
      | single only' =>
          obtain ⟨alike, rests, values⟩ := only.unique only' texts params hr.follows hs.follows
          exact ⟨.cons alike .nil, rests, values⟩
      | cons head tail =>
          -- the list cannot both end and go on after its first condition
          simp only [List.append_assoc, List.cons_append] at texts params
          obtain ⟨-, rests, -⟩ := only.unique head texts params hr.follows (tail.follows _ s)
          rw [rests] at hr
          cases hr ' ' rfl
  | cons head tail =>
      cases second with
      | single only =>
          simp only [List.append_assoc, List.cons_append] at texts params
          obtain ⟨-, rests, -⟩ := head.unique only texts params (tail.follows _ r) hs.follows
          rw [← rests] at hs
          cases hs ' ' rfl
      | cons head' tail' =>
          simp only [List.append_assoc, List.cons_append] at texts params
          obtain ⟨alike, rests, values⟩ := head.unique head' texts params (tail.follows _ r)
            (tail'.follows _ s)
          obtain ⟨combinators, others⟩ := keyword_ends (List.cons.inj rests).2
          obtain ⟨same, rests, values⟩ := tail.unique tail' others values hr hs
          cases same with
          | cons next joined => exact ⟨.cons alike (.cons combinators next joined), rests, values⟩

end

/-! ## Rendered conditions -/

open Render

mutual

theorem Predicate.Alike.render_eq {a b : Predicate} (alike : a.Alike b) : a.render = b.render := by
  cases alike with
  | compare combinator combinator' names operator value => simp only [Predicate.render, names]
  | group combinator combinator' inner =>
      simp only [Predicate.render]
      cases inner with
      | nil => rfl
      | cons first others =>
          -- the first combinator is not written
          simp only [renderPredicates, first.render_eq, others.render_eq, bind_assoc, pure_bind]
          rfl

theorem JoinedAlike.render_eq {as bs : List Predicate} (alike : JoinedAlike as bs) :
    renderPredicates as = renderPredicates bs := by
  cases alike with
  | nil => rfl
  | cons combinators first others =>
      simp only [renderPredicates, combinators, first.render_eq, others.render_eq]

end

theorem ConditionsAlike.render_eq {as bs : List Predicate} (alike : ConditionsAlike as bs) :
    renderWhere as = renderWhere bs := by
  cases alike with
  | nil => rfl
  | cons first others =>
      simp only [renderWhere, renderPredicates, first.render_eq, others.render_eq, bind_assoc,
        pure_bind]
      rfl

/-- Conditions that are rendered as they are spelled, with their keyword. -/
theorem renderWhere_spelled {predicates : List Predicate}
    (each : ∀ predicate ∈ predicates, predicate.Regular) :
    (renderWhere predicates).Succeeds fun sql params =>
      (predicates = [] ∧ sql = "") ∨ ∃ text, SpelledConditions predicates text params
        ∧ sql.toList = " Where ".toList ++ text := by
  by_cases filled : predicates = []
  · have nothing : renderWhere [] = pure "" := rfl
    rw [filled, nothing]
    exact .pure (.inl ⟨rfl, rfl⟩)
  · refine (renderPredicates_spelled filled each).bind_pure fun parts params spelled => ?_
    obtain ⟨combinators, spelled⟩ := spelled
    refine .inr ⟨_, spelled, ?_⟩
    cases parts with
    | nil => exact absurd (List.map_eq_nil_iff.1 combinators.symm) filled
    | cons part rest => exact String.toList_append

/-- Conditions that steps without fragments, calls and subqueries of the caller build, nested to any
depth, with columns called anything and operators in any spelling, are rendered. Two lists of them are
rendered to the same text with the same values exactly if they are equal up to the combinator of the
first condition in each list and up to names that are written in the same way. -/
theorem WhereGroup.render_eq_iff_alike {steps steps' : List WhereStep} (plain : PlainSteps steps)
    (plain' : PlainSteps steps') :
    ∃ sql sql' params params',
      (renderWhere (ofSteps steps).predicates).run {} = (.ok sql, { params })
      ∧ (renderWhere (ofSteps steps').predicates).run {} = (.ok sql', { params := params' })
      ∧ (sql = sql' ∧ params = params'
        ↔ ConditionsAlike (ofSteps steps).predicates (ofSteps steps').predicates) := by
  have regular {steps : List WhereStep} (plain : PlainSteps steps) :
      ∀ predicate ∈ (ofSteps steps).predicates, predicate.Regular := by
    rw [ofSteps, applyWhere_eq]
    exact wherePredicates_regular steps plain
  obtain ⟨sql, params, run, spelled⟩ := renderWhere_spelled (regular plain) {}
  obtain ⟨sql', params', run', spelled'⟩ := renderWhere_spelled (regular plain') {}
  refine ⟨sql, sql', params, params', run, run', ?same, ?alike⟩
  case same =>
    rintro ⟨rfl, rfl⟩
    rcases spelled with ⟨none, rfl⟩ | ⟨text, conditions, written⟩
    · rcases spelled' with ⟨none', -⟩ | ⟨text', conditions', written'⟩
      · rw [none, none']
        exact .nil
      · cases written'
    · rcases spelled' with ⟨none', rfl⟩ | ⟨text', conditions', written'⟩
      · cases written
      · have texts : text ++ [] = text' ++ [] := by
          rw [written] at written'
          rw [List.append_cancel_left written']
        have values : params ++ [] = params ++ [] := rfl
        have ends : Ends [] := nofun
        exact (conditions.unique conditions' texts values ends ends).1
  case alike =>
    intro alike
    rw [alike.render_eq, run'] at run
    cases run
    exact ⟨rfl, rfl⟩

/-- Conditions with a range, nested lists and an alias are rendered in the same way if the alias has
more blanks around it and first combinators differ, but not if parentheses are left out. -/
theorem WhereGroup.render_eq_iff_alike_nested :
    let list := Operand.list [.list [.value (.int 4), .list []], .value .null]
    let steps := [WhereStep.equal .or "a as b" (.value (.int 1)),
      .group .or [.between .and "c" (.int 2) (.int 3), .compare .and "d" "nOt IN" list]]
    let renamed := [WhereStep.equal .and "a  as  b" (.value (.int 1)),
      .group .or [.between .or "c" (.int 2) (.int 3), .compare .and "d" "nOt IN" list]]
    let flat := [WhereStep.equal .or "a as b" (.value (.int 1)),
      .between .or "c" (.int 2) (.int 3), .compare .and "d" "nOt IN" list]
    PlainSteps steps ∧ PlainSteps renamed ∧ PlainSteps flat
      ∧ (∃ sql params, (renderWhere (ofSteps steps).predicates).run {} = (.ok sql, { params })
        ∧ (renderWhere (ofSteps renamed).predicates).run {} = (.ok sql, { params }))
      ∧ ∃ sql sql' params params',
        (renderWhere (ofSteps steps).predicates).run {} = (.ok sql, { params })
        ∧ (renderWhere (ofSteps flat).predicates).run {} = (.ok sql', { params := params' })
        ∧ ¬(sql = sql' ∧ params = params') := by
  intro list steps renamed flat
  have plainList : list.Plain := by
    refine .list fun item mem => ?_
    simp only [List.mem_cons, List.not_mem_nil, or_false] at mem
    rcases mem with rfl | rfl
    · refine .list fun item mem => ?_
      simp only [List.mem_cons, List.not_mem_nil, or_false] at mem
      rcases mem with rfl | rfl
      · exact .value _
      · exact .list (List.forall_mem_nil _)
    · exact .value _
  have plain : PlainSteps steps := ⟨.value _, ⟨trivial, plainList, trivial⟩, trivial⟩
  have plainRenamed : PlainSteps renamed := ⟨.value _, ⟨trivial, plainList, trivial⟩, trivial⟩
  have plainFlat : PlainSteps flat := ⟨.value _, trivial, plainList, trivial⟩
  have alike : ConditionsAlike (ofSteps steps).predicates (ofSteps renamed).predicates :=
    .cons (.compare _ _ (by decide) _ _)
      (.cons rfl
        (.group _ _ (.cons (.compare _ _ rfl _ _) (.cons rfl (.compare _ _ rfl _ _) .nil))) .nil)
  have apart : ¬ConditionsAlike (ofSteps steps).predicates (ofSteps flat).predicates := by
    rintro (_ | ⟨-, _ | ⟨-, group, -⟩⟩)
    cases group
  obtain ⟨sql, sql', params, params', run, run', same⟩ := render_eq_iff_alike plain plainRenamed
  obtain ⟨rfl, rfl⟩ := same.2 alike
  obtain ⟨first, second, values, values', runFirst, runSecond, differ⟩ :=
    render_eq_iff_alike plain plainFlat
  exact ⟨plain, plainRenamed, plainFlat, ⟨sql, params, run, run'⟩,
    first, second, values, values', runFirst, runSecond, fun both => apart (differ.1 both)⟩

end SqlBuilder
