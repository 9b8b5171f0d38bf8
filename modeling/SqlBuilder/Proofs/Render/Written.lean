import SqlBuilder.Proofs.Render.Ensures
import SqlBuilder.Proofs.Render.Outline

set_option autoImplicit false

/-! # Every rendering follows the grammar

`Statement.render_written`: the text of a statement that renders is written from its ingredients, the
values that it binds are the values of the grammar, and the grammar's text with the values written
out is the one of the direct walk. A property that all parts of a text have, and that survives
putting parts together, is then a property of every statement that renders.

`Statement.render_binds`: these values are the scalars in the bound positions of the statement, in
the order of the text, whatever was collected before. -/

namespace SqlBuilder

variable {σ : Value → Value} {P : Ingredient → Prop}

open Render

/-! ## What is written -/

/-- A rendering that writes a text from ingredients with a property; `shown` is the text with its
values written out. -/
def Render.Writes (P : Ingredient → Prop) (r : Render String) (shown : String) : Prop :=
  Render.Ensures r fun sql params => Written P sql params shown

theorem Written.mono {Q : Ingredient → Prop} (weaken : ∀ i, P i → Q i) {sql shown : String}
    {params : List Value} (written : Written P sql params shown) : Written Q sql params shown := by
  induction written with
  | word text h => exact .word text h
  | quoted name => exact .quoted name
  | operator h => exact .operator (weaken _ h)
  | function h => exact .function (weaken _ h)
  | placeholder v => exact .placeholder v
  | fragment h expands => exact .fragment (weaken _ h) expands
  | append first second ihf ihs => exact .append ihf ihs
  | parens inner ih => exact .parens ih

namespace Render.Writes

/-- What is written without anything of a caller's own. -/
theorem plain {text : String} (written : Written (fun _ => False) text [] text) :
    Writes P (pure text) text :=
  Ensures.pure (written.mono fun _ no => no.elim)

theorem append {a b : Render String} {x y : String} (ha : Writes P a x) (hb : Writes P b y) :
    Writes P (a ++ b) (x ++ y) :=
  Ensures.bind ha fun _ _ first => Ensures.bind_pure hb fun _ _ second => first.append second

end Render.Writes

theorem Render.Outlined.writes {ings : List Ingredient} {r r' : Render String} {outline : Outline}
    (ho : Outlined σ ings r r' outline) (h : ∀ i ∈ ings, i.Throughout P) :
    r.Writes P outline.shown := by
  induction ho with
  | plain written => exact .plain written
  | operator mem =>
      cases h _ mem with
      | operator ho => exact Ensures.pure (.operator ho)
  | placeholder v =>
      refine (Ensures.placeholder v).mono ?_
      rintro _ _ ⟨rfl, rfl⟩
      exact .placeholder v
  | fragment mem =>
      cases h _ mem with
      | fragment hf => exact (Ensures.fragment _).mono fun _ _ => .fragment hf
  | subquery mem inner ih =>
      cases h _ mem with
      | query hs => exact Ensures.subquery ((ih hs).mono fun _ _ => .parens)
  | throw shown values fails => exact Ensures.throw _
  | unmatched shown values inner ih => exact (ih h).bind fun _ _ _ => .throw _
  | skip part fine rest ih => exact ih h
  | parens inner ih =>
      rw [between_eq]
      exact (ih h).bind_pure fun _ _ => .parens
  | call mem inner ih =>
      cases h _ mem with
      | function hn =>
          rw [between_eq]
          refine (ih h).bind_pure fun _ _ args => ?_
          simpa only [String.append_assoc] using (Written.function hn).plain_append args.parens
  | between first inner last ih =>
      rw [String.append_assoc]
      exact .append (.plain first) (.append (ih h) (.plain last))
  | separated ha separator word hb iha ihb =>
      rw [String.append_assoc]
      exact .append (iha h) (.append (.plain (.word separator word.2)) (ihb h))

/-- The text of a statement is written from its ingredients, and with the values written out it is the
text that the direct walk yields. -/
theorem Statement.render_written (s : Statement) (h : s.Throughout P) :
    s.render.Writes P s.display :=
  (s.outlined id).writes h

/-- The query of a statement is what its rendering makes of nothing collected before. -/
theorem Statement.outcome_of_build {s : Statement} {query : Query} (built : s.build = .ok query) :
    ∃ after, s.render.run {} = (.ok query.sql, after) ∧ after.params = query.params := by
  unfold build outcome at built
  split at built
  · rename_i sql after run
    cases built
    exact ⟨after, run, rfl⟩
  · cases built

/-- A statement whose text is known has a query. -/
theorem Statement.query_of_sql {s : Statement} {sql : String}
    (text : s.build.toOption.map Query.sql = some sql) :
    ∃ query, s.build = .ok query ∧ query.sql = sql := by
  cases built : s.build with
  | error e =>
      rw [built] at text
      cases text
  | ok query =>
      rw [built] at text
      exact ⟨query, rfl, Option.some.inj text⟩

theorem Statement.written_of_build {s : Statement} {query : Query} (h : s.Throughout P)
    (built : s.build = .ok query) : Written P query.sql query.params s.display := by
  obtain ⟨after, run, collected⟩ := outcome_of_build built
  obtain ⟨params, same, written⟩ := s.render_written h _ _ _ run
  rw [← collected, same]
  simpa using written

/-! ## What is bound -/

/-- If the rendering succeeds, it adds these values. -/
def Render.Binds (r : Render String) (values : List Value) : Prop :=
  Render.Ensures r fun _ params => params = values

theorem Render.Binds.append {a b : Render String} {values more : List Value} (ha : Binds a values)
    (hb : Binds b more) : Binds (a ++ b) (values ++ more) := by
  refine Ensures.bind ha fun _ params same => Ensures.bind_pure hb fun _ others sameOthers => ?_
  rw [same, sameOthers]

theorem boundParams_nil (slots : List Slot) : boundParams slots [] = [] := by
  cases slots <;> rfl

theorem Expansion.left_eq {cs out : List Char} {params left : List Value}
    (h : Expansion cs params out left) : left = boundParams (slots cs) params := by
  induction h with
  | done params => rfl
  | name name tail ih =>
      rw [slots, boundParams]
      exact ih
  | value param single tail ih =>
      rw [slots, boundParams, ← ih]
      exact single
  | unfilled single tail ih =>
      rw [boundParams_nil] at ih ⊢
      exact ih
  | char other tail ih =>
      rw [slots]
      · exact ih
      · exact fun _ same => (other same).elim
      · exact other

theorem Fragment.render_binds (fragment : Fragment) : fragment.render.Binds fragment.scalars :=
  (Ensures.fragment fragment).mono fun _ _ expands => (Fragment.expansion expands).left_eq

theorem Render.Outlined.binds {ings : List Ingredient} {r r' : Render String} {outline : Outline}
    (ho : Outlined σ ings r r' outline) : r.Binds outline.values := by
  induction ho with
  | plain written => exact Ensures.pure rfl
  | operator mem => exact Ensures.pure rfl
  | placeholder v => exact (Ensures.placeholder v).mono fun _ _ bound => bound.2
  | fragment mem => exact Fragment.render_binds _
  | subquery mem inner ih => exact Ensures.subquery ih
  | throw shown values fails => exact Ensures.throw _
  | unmatched shown values inner ih => exact ih.bind fun _ _ _ => .throw _
  | skip part fine rest ih => exact ih
  | parens inner ih =>
      rw [between_eq]
      exact ih.bind_pure fun _ _ same => same
  | call mem inner ih =>
      rw [between_eq]
      exact ih.bind_pure fun _ _ same => same
  | between first inner last ih =>
      rw [between_eq]
      exact ih.bind_pure fun _ _ same => same
  | separated ha separator word hb iha ihb =>
      have word : Binds (pure separator) [] := Ensures.pure rfl
      exact iha.append (word.append ihb)

/-- A statement that renders binds the scalars in its bound positions. -/
theorem Statement.render_binds (s : Statement) : s.render.Binds s.scalars :=
  (s.outlined id).binds

end SqlBuilder
