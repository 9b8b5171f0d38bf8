import SqlBuilder.Proofs.Render.Appends

set_option autoImplicit false

/-! # Which part decides the error

`Statement.build_error_iff`: rendering tries the parts of a statement one after the other, and the
first of them that fails decides the error. -/

namespace SqlBuilder

namespace Render

variable {α β : Type}

/-- The rendering fails with the failure of the first part that fails, and succeeds if none does. -/
def Tries (r : Render α) (parts : List StatementPart) : Prop :=
  ∀ before : Bindings, failureOf (r.run before).1 = parts.findSome? StatementPart.failure

/-! ## Rules -/

namespace Tries

theorem pure (a : α) : Tries (Pure.pure a) [] := by
  intro before
  rw [run_pure]
  rfl

theorem throw {e : QueryError} {part : StatementPart} (fails : part.failure = some e) :
    Tries (MonadExcept.throw e : Render α) [part] := by
  intro before
  rw [run_throw, List.findSome?_cons, fails]
  rfl

theorem bindAll (values : List Value) : Tries (bindAll values) [] := by
  intro before
  rw [run_bindAll]
  rfl

/-- The parts of a second rendering are tried if the first one succeeds, and they may depend on its
result. -/
theorem bind_of_run {r : Render α} {f : α → Render β} {parts more : List StatementPart}
    (hr : Tries r parts)
    (hf : ∀ before a after, r.run before = (.ok a, after) → Tries (f a) more) :
    Tries (r >>= f) (parts ++ more) := by
  intro before
  have first := hr before
  rw [run_bind, List.findSome?_append, ← first]
  rcases run : r.run before with ⟨e | a, after⟩
  · rfl
  · exact hf before a after run after

theorem bind {r : Render α} {f : α → Render β} {parts more : List StatementPart}
    (hr : Tries r parts) (hf : ∀ a, Tries (f a) more) : Tries (r >>= f) (parts ++ more) :=
  hr.bind_of_run fun _ a _ _ => hf a

/-- The last step of a rendering changes its result and cannot fail. -/
theorem bind_pure {r : Render α} {f : α → β} {parts : List StatementPart} (hr : Tries r parts) :
    Tries (r >>= fun a => Pure.pure (f a)) parts := by
  have both := hr.bind fun a => pure (f a)
  rwa [List.append_nil] at both

/-- A part that cannot fail makes no difference. -/
theorem cons {r : Render α} {part : StatementPart} {parts : List StatementPart}
    (fine : part.failure = none) (hr : Tries r parts) : Tries r (part :: parts) := by
  intro before
  rw [List.findSome?_cons, fine]
  exact hr before

theorem append {a b : Render String} {parts more : List StatementPart} (ha : Tries a parts)
    (hb : Tries b more) : Tries (a ++ b) (parts ++ more) :=
  ha.bind fun _ => hb.bind_pure

theorem fragment (fragment : Fragment) :
    Tries fragment.render [.ingredient (.fragment fragment)] := by
  intro before
  rw [Fragment.render, List.findSome?_cons, StatementPart.failure, Ingredient.failure]
  cases fragment.expand with
  | error e => rfl
  | ok done => rfl

/-- A subquery fails as it does on its own. -/
theorem subquery (select : Select) :
    Tries (subquery select.render) [.ingredient (.query select)] := by
  intro before
  have appends := (Clause.statement (.select select)).render_appends
  have text := (appends.subquery_in_place before).1
  have own := congrArg Prod.fst (appends before)
  simp only [Clause.render, Statement.render] at text own
  -- the values collected before the subquery do not decide whether it renders
  rw [text, failureOf_map, own, List.findSome?_cons, StatementPart.failure, Ingredient.failure,
    Statement.failureOf_build, Statement.render]
  cases failureOf (select.render.run {}).1 <;> rfl

end Tries

end Render

/-- What a table renders to does not depend on what was rendered before it. -/
theorem Table.text_of_run {table : Table} {before after : Bindings} {sql : String}
    (run : table.render.run before = (.ok sql, after)) : sql = table.text := by
  have own := congrArg Prod.fst (table.render_appends before)
  rw [run] at own
  rw [Table.text, ← own]

namespace Render

theorem Outlined.tries {σ : Value → Value} {ings : List Ingredient} {r r' : Render String}
    {outline : Outline} (ho : Outlined σ ings r r' outline) : r.Tries outline.parts := by
  induction ho with
  | plain written => exact .pure _
  | operator mem => exact .pure _
  | placeholder v => exact (Tries.bindAll [v]).bind_pure
  | fragment mem => exact .fragment _
  | subquery mem inner ih => exact .subquery _
  | throw shown values fails => exact .throw fails
  | unmatched shown values inner ih =>
      refine ih.bind_of_run fun before sql after run => ?_
      -- the error shows the text of the table
      rw [Table.text_of_run run]
      exact .throw rfl
  | skip part fine rest ih => exact ih.cons fine
  | parens inner ih =>
      rw [between_eq]
      exact ih.bind_pure
  | call mem inner ih =>
      rw [between_eq]
      exact ih.bind_pure
  | between first inner last ih =>
      rw [between_eq]
      exact ih.bind_pure
  | separated ha separator word hb iha ihb => exact iha.append ihb.bind_pure

end Render

/-! ## Statements -/

namespace Statement

/-- A statement fails with the failure of the first of its parts that fails. -/
theorem build_error_iff (s : Statement) (e : QueryError) :
    s.build = .error e ↔ s.parts.findSome? StatementPart.failure = some e := by
  rw [← (s.outlined id).tries {}, ← failureOf_build, failureOf_eq_some]

/-- A statement builds if and only if none of its parts fails. -/
theorem build_ok_iff (s : Statement) :
    (∃ query, s.build = .ok query) ↔ ∀ part ∈ s.parts, part.failure = none := by
  rw [← List.findSome?_eq_none_iff, ← (s.outlined id).tries {}, ← failureOf_build, failureOf_eq_none]

end Statement

end SqlBuilder
